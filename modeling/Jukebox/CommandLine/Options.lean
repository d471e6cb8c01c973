import Jukebox.CommandLine.Flag
import Jukebox.CommandLine.Similar
import Jukebox.Settings.Startup

/-!
# Options

What the arguments of the program ask for. A flag is written by its long name or by its short one;
a value follows as the next argument, behind an equality sign, or right behind the short name. Each
flag may be given once, and nothing but flags and their values may be given.

A flag whose value may still follow is taken only when the next flag or the end is reached. Until
then nothing is wrong with it, so an unknown argument in between is refused first.
-/

namespace Jukebox.CommandLine

/-- The name of the program. -/
def programName : String := "songq-player"

/-- The version of the program. -/
def programVersion : String := "0.1.0"

/-! ## Refusals -/

/-- Why arguments are refused. -/
inductive Refusal
  /-- A flag has no value, or an empty one where it must not be. -/
  | missingValue (flag : Flag)
  /-- A flag is given twice. -/
  | repeated (flag : Flag)
  /-- A flag is given a value that takes none; these flags are shown. -/
  | unneededValue (flag : Flag) (value : String) (shown : List Flag)
  /-- An argument is neither a flag nor a value. It may be like a flag; these flags are shown. -/
  | unknown (argument : String) (similar : Option Flag) (shown : List Flag)
  deriving Repr, DecidableEq

/-- A line on how the program is used, with some flags or in general. -/
def usageLine (flags : List Flag) : String :=
  let shown :=
    if flags.isEmpty then "[OPTIONS]" else String.intercalate " " (flags.map Flag.usage)
  s!"Usage: {programName} {shown}"

/-- The paragraphs of a refusal. -/
def Refusal.paragraphs : Refusal → List String
  | missingValue flag =>
    [s!"error: a value is required for '{flag.usage}' but none was supplied"]
  | repeated flag =>
    [s!"error: the argument '{flag.usage}' cannot be used multiple times", usageLine []]
  | unneededValue flag value shown =>
    [ s!"error: unexpected value '{value}' for '{flag.usage}' found; no more were expected",
      usageLine shown ]
  | unknown argument similar shown =>
    s!"error: unexpected argument '{argument}' found" ::
      ((similar.map fun flag => s!"  tip: a similar argument exists: '--{flag.long}'").toList ++
        [usageLine shown])

/-- The refusal in words. -/
def Refusal.report (r : Refusal) : String :=
  String.intercalate "\n\n" (r.paragraphs ++ ["For more information, try '--help'.\n"])

/-- Why the arguments do not lead to a start. -/
inductive Stop
  | help
  | version
  | refused (refusal : Refusal)
  deriving Repr, DecidableEq

/-! ## Reading the arguments -/

/-- How far the arguments have been read. -/
structure Progress where
  /-- The flags taken so far with their values. -/
  taken : List (Flag × String) := []
  /-- A flag that is not taken yet, with its value if it has come. -/
  pending : Option (Flag × Option String) := none
  deriving Repr, DecidableEq

namespace Progress

/-- The flags taken so far. -/
def flags (p : Progress) : List Flag := p.taken.map Prod.fst

/-- Takes a flag with its value. -/
def take (flag : Flag) (value : Option String) (p : Progress) : Progress × Option Refusal :=
  if flag.takesValue ∧ value.isNone then (p, some (.missingValue flag))
  else if p.flags.contains flag then
    ({ p with taken := p.taken.filter fun entry => entry.1 ≠ flag }, some (.repeated flag))
  else
    let p := { p with taken := p.taken ++ [(flag, value.getD "")] }
    if flag = .config ∧ value = some "" then (p, some (.missingValue flag)) else (p, none)

/-- Takes the pending flag, if there is one. -/
def settle (p : Progress) : Progress × Option Refusal :=
  match p.pending with
  | none => (p, none)
  | some (flag, value) => take flag value { p with pending := none }

end Progress

/-- A refusal stops the reading. -/
def orStop : Progress × Option Refusal → Except Stop Progress
  | (p, none) => .ok p
  | (_, some refusal) => .error (.refused refusal)

/-- Takes a flag that needs no more of the arguments, after the pending one. -/
def takeNow (flag : Flag) (value : Option String) (p : Progress) : Except Stop Progress := do
  let p ← orStop p.settle
  match flag with
  | .help => .error .help
  | .version => .error .version
  | flag => orStop (p.take flag value)

/-- The refusal of an argument that is neither a flag nor a value. -/
def unknownArgument (argument : String) : Stop :=
  .refused (.unknown argument none [])

/-- The refusal of a long name that no flag has. A flag with a similar name is shown with those
that were given. -/
def unknownLong (name : String) (p : Progress) : Stop :=
  let given := p.settle.1.flags
  let similar := closest? Flag.long Flag.all name
  .refused (.unknown ("--" ++ name) similar (given ++ (similar.toList.filter (!given.contains ·))))

/-- Reads a flag given by its long name, with the value behind the equality sign if there is one. -/
def readLong (name : String) (value : Option String) (p : Progress) : Except Stop Progress :=
  match Flag.ofLong? name with
  | none => .error (unknownLong name p)
  | some flag =>
    match flag.takesValue, value with
    | true, none => do
      let p ← orStop p.settle
      .ok { p with pending := some (flag, none) }
    | false, some value =>
      let shown := if p.flags.contains flag then p.flags else p.flags ++ [flag]
      .error (.refused (.unneededValue flag value shown))
    | _, _ => takeNow flag value p

/-- Reads a flag given by its short name, and what stands right behind the name. -/
def readShort (name : Char) (behind : List Char) (p : Progress) : Except Stop Progress :=
  match Flag.ofShort? name with
  | none => .error (unknownArgument (String.ofList ['-', name]))
  | some flag =>
    if flag.takesValue then
      match behind with
      | [] => do
        let p ← orStop p.settle
        .ok { p with pending := some (flag, none) }
      | '=' :: value => takeNow flag (some (String.ofList value)) p
      | value => takeNow flag (some (String.ofList value)) p
    else takeNow flag none p

/-- The name and the value of a long flag, behind the dashes. -/
def cutAtEquals (cs : List Char) : String × Option String :=
  let name := cs.takeWhile (· ≠ '=')
  match cs.drop name.length with
  | _ :: value => (String.ofList name, some (String.ofList value))
  | [] => (String.ofList name, none)

/-- Reads the arguments one after the other. -/
def readFrom : List String → Progress → Except Stop Progress
  | [], p => orStop p.settle
  | argument :: rest, p =>
    match argument.toList with
    | ['-', '-'] =>
      match rest with
      | [] => orStop p.settle
      | next :: _ => .error (unknownArgument next)
    | '-' :: '-' :: cs => do
      let (name, value) := cutAtEquals cs
      readFrom rest (← readLong name value p)
    | '-' :: name :: behind => do
      readFrom rest (← readShort name behind p)
    | _ =>
      match p.pending with
      | some (flag, none) => readFrom rest { p with pending := some (flag, some argument) }
      | _ => .error (unknownArgument argument)

/-! ## What the arguments and the environment ask for -/

/-- What the environment says. A variable that is not set is `none`. -/
structure Environment where
  locations : Locations := {}
  /-- The address that requests come from, where the arguments name none. -/
  endpoint : Option String := none
  /-- The address that the status is served at, where the arguments name none. -/
  statusBind : Option String := none
  /-- What is logged. -/
  logFilter : Option String := none
  deriving Repr, DecidableEq

/-- What the arguments and the environment ask for. -/
structure Options where
  /-- The file with the settings. -/
  config : Option Path := none
  overrides : Overrides := {}
  deriving Repr, DecidableEq

/-- Reads the arguments. What the environment says stands in for flags that are not given. -/
def Options.read (environment : Environment) (arguments : List String) : Except Stop Options := do
  let p ← readFrom arguments {}
  let value? (flag : Flag) : Option String := p.taken.lookup flag
  .ok
    { config := (value? .config).map Path.ofText
      overrides :=
        { endpoint := value? .endpoint <|> environment.endpoint
          statusBind := value? .statusBind <|> environment.statusBind
          dryRun := (value? .dryRun).isSome } }

end Jukebox.CommandLine
