import Jukebox.CommandLine.Options

/-!
# Help

The text that tells about the flags.
-/

namespace Jukebox.CommandLine

/-- The environment variable that stands in for a flag, and what it says. -/
def settingOf? (environment : Environment) : Flag → Option (String × Option String)
  | .endpoint => some ("SONGQ_ENDPOINT", environment.endpoint)
  | .statusBind => some ("SONGQ_STATUS_BIND", environment.statusBind)
  | _ => none

/-- How wide the column of the flags is, without the short names. -/
def flagColumn : Nat :=
  (Flag.all.map fun flag => flag.usage.length).foldl max 0

/-- The line on one flag. -/
def helpLine (environment : Environment) (flag : Flag) : String :=
  let short := match flag.short? with
    | some name => String.ofList ['-', name, ',', ' ']
    | none => "    "
  let gap := String.ofList (List.replicate (flagColumn - flag.usage.length + 2) ' ')
  let setting := match settingOf? environment flag with
    | some (name, value) => s!" [env: {name}=" ++ value.getD "" ++ "]"
    | none => ""
  s!"  {short}{flag.usage}{gap}{flag.purpose}{setting}\n"

/-- The text on all flags. -/
def helpText (environment : Environment) : String :=
  s!"Song request queue player\n\n{usageLine []}\n\nOptions:\n" ++
    String.join (Flag.all.map (helpLine environment))

/-- The line on the version. -/
def versionText : String := s!"{programName} {programVersion}\n"

end Jukebox.CommandLine
