import Jukebox.CommandLine.Launch

/-!
# The program

Hands the arguments, the environment and the files to `CommandLine.launch` and prints what comes of
it. A line on the standard input, or its end, tells the program to stop.
-/

namespace Jukebox.Program

open CommandLine

/-- The failure that a look at a file ended in. -/
def failure : IO.Error → FileError
  | .noFileOrDirectory .. => .system .noSuchFile
  | .permissionDenied .. => .system .permissionDenied
  | .invalidArgument _ code _ | .inappropriateType _ code _ | .resourceExhausted _ code _ |
    .noSuchThing _ code _ => .system ((Host.Error.ofCode? code.toNat).getD .isADirectory)
  | _ => .system .isADirectory

/-- Looks at the file at a path. -/
def look (path : Path) : IO (Path × Except FileError (List UInt8)) := do
  if path.bytes.contains 0 then return (path, .error .nulByte)
  -- files whose paths are no texts cannot be opened from here
  let some name := Text.ofBytes? path.bytes | return (path, .error (.system .noSuchFile))
  try
    return (path, .ok (← IO.FS.readBinFile name).toList)
  catch e =>
    return (path, .error (failure e))

/-- The directory with the user's settings: the one that is named by an absolute path, else the one
in the user's directory. Where the environment does not name that either, none is looked up. -/
def configDirectory : IO (Option Path) := do
  if let some directory ← IO.getEnv "XDG_CONFIG_HOME" then
    if directory.startsWith "/" then return some (.ofText directory)
  match ← IO.getEnv "HOME" with
  | some home => return if home.isEmpty then none else some ((Path.ofText home).join ".config")
  | none => return none

/-- What the environment says. -/
def environment : IO Environment := do
  return {
    locations := {
      settingsFile := (← IO.getEnv "SONGQ_CONFIG").map Text.bytesOf
      configDirectory := ← configDirectory }
    endpoint := ← IO.getEnv "SONGQ_ENDPOINT"
    statusBind := ← IO.getEnv "SONGQ_STATUS_BIND"
    logFilter := ← IO.getEnv "RUST_LOG" }

/-- Prints lines of the log. -/
def printLog (lines : List LogLine) : IO Unit :=
  lines.forM fun line => IO.println line.render

end Jukebox.Program

open Jukebox CommandLine in
/-- Starts the program, and stops it when told to. -/
def main (arguments : List String) : IO UInt32 := do
  let environment ← Program.environment
  let seen ← (pathsOfInterest environment arguments).mapM Program.look
  match launch environment (.ofSeen seen) Host.listen arguments with
  | .ended code output errors =>
    IO.print output
    IO.eprint errors
    return UInt32.ofNat code
  | .running r =>
    Program.printLog r.startLog
    (← IO.getStdout).flush
    discard (← IO.getStdin).getLine
    Program.printLog (r.stopLog .terminate)
    return 0
