/-!
# Flags

The flags that the program knows, how each is written, and what it is for.
-/

namespace Jukebox.CommandLine

/-- A flag of the program. -/
inductive Flag
  /-- The file with the settings. -/
  | config
  /-- The address that requests come from. -/
  | endpoint
  /-- The address that the status is served at. -/
  | statusBind
  /-- Nothing is played. -/
  | dryRun
  /-- Tell about the flags instead of starting. -/
  | help
  /-- Tell the version instead of starting. -/
  | version
  deriving Repr, DecidableEq

namespace Flag

/-- All flags, in the order in which they are told about. -/
def all : List Flag := [config, endpoint, statusBind, dryRun, help, version]

/-- The long name of a flag, which is written behind two dashes. -/
def long : Flag → String
  | config => "config"
  | endpoint => "endpoint"
  | statusBind => "status-bind"
  | dryRun => "dry-run"
  | help => "help"
  | version => "version"

/-- The short name of a flag that has one, which is written behind one dash. -/
def short? : Flag → Option Char
  | config => some 'c'
  | endpoint => some 'e'
  | help => some 'h'
  | version => some 'V'
  | statusBind | dryRun => none

/-- What the value of a flag that takes one is called. -/
def valueName? : Flag → Option String
  | config => some "CONFIG"
  | endpoint => some "ENDPOINT"
  | statusBind => some "STATUS_BIND"
  | dryRun | help | version => none

/-- What a flag is for. -/
def purpose : Flag → String
  | config => "Config file (TOML); falls back to $SONGQ_CONFIG, then default locations"
  | endpoint => "WebSocket endpoint delivering PLAY/SKIP commands"
  | statusBind => "Serve the status API on this address"
  | dryRun => "Log items instead of launching a player process"
  | help => "Print help"
  | version => "Print version"

/-- The flag takes a value. -/
def takesValue (f : Flag) : Bool := f.valueName?.isSome

/-- How a flag is written, with its value. -/
def usage (f : Flag) : String :=
  "--" ++ f.long ++
    match f.valueName? with
    | some name => " <" ++ name ++ ">"
    | none => ""

/-- The flag with a long name. -/
def ofLong? (name : String) : Option Flag := all.find? fun f => f.long = name

/-- The flag with a short name. -/
def ofShort? (name : Char) : Option Flag := all.find? fun f => f.short? = some name

@[simp] theorem ofLong?_long (f : Flag) : ofLong? f.long = some f := by
  cases f <;> rfl

end Flag

end Jukebox.CommandLine
