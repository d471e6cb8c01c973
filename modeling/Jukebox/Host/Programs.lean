import Jukebox.Host.Exit
import Jukebox.Host.Shell

/-!
# Programs

Starting a program by its name, on a system with the handful of programs that matter here. Their
input is empty and their output is thrown away, so a program amounts to how long it runs and how it
ends.
-/

namespace Jukebox.Host

/-- A running program: when it ends, in milliseconds from its start, and how. -/
structure Child where
  lasts : Nat
  exit : Exit
  deriving Repr, DecidableEq

/-- A program that ends by itself, with a status. -/
def Child.exiting (lasts status : Nat) : Child := ⟨lasts, .status status⟩

/-- Why a program cannot be started. -/
inductive LaunchError
  /-- A name or an argument holds the character that ends texts inside the system. -/
  | nulByte
  | system (cause : Error)
  deriving Repr, DecidableEq

/-- The reason in words. -/
def LaunchError.message : LaunchError → String
  | nulByte => "nul byte found in provided data"
  | system cause => cause.message

/-- Names that stand for directories. -/
def directories : List String :=
  ["/", ".", "..", "./", "../", "/bin", "/bin/", "/usr", "/usr/bin", "/usr/bin/", "/etc", "/tmp",
    "/dev", "/root", "/home"]

/-- The name of a program without the directories that programs are in. -/
def programName (command : String) : String :=
  (["/bin/", "/usr/bin/"].findSome? fun directory =>
    if directory.toList.isPrefixOf command.toList then
      some (String.ofList (command.toList.drop directory.length))
    else none).getD command

/-- The shell with its arguments. -/
def runShell : List String → Child
  | [] => .exiting 0 0
  | "-c" :: script :: parameters =>
    let parameters := if parameters.isEmpty then ["sh"] else parameters
    let done := Shell.run script parameters
    .exiting done.elapsed done.status
  | ["-c"] => .exiting 0 2
  | first :: _ => .exiting 0 (if first.toList.head? = some '-' then 2 else 127)

/-- Starts a program. -/
def launch (command : String) (args : List String) : Except LaunchError Child :=
  if (command :: args).any fun s => s.toList.contains '\x00' then .error .nulByte
  else if directories.contains command then .error (.system .permissionDenied)
  else
    match programName command with
    | "sh" => .ok (runShell args)
    | "true" => .ok (.exiting 0 0)
    | "false" => .ok (.exiting 0 1)
    | "sleep" =>
      let done := Shell.pause (args.map String.toList)
      .ok (.exiting done.elapsed done.status)
    | "echo" => .ok (.exiting 0 0)
    | "cat" => .ok (.exiting 0 (if args.isEmpty then 0 else 1))
    | "test" => .ok (.exiting 0 (Shell.compare (args.map String.toList)))
    | _ => .error (.system .noSuchFile)

end Jukebox.Host
