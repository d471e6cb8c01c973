/-!
# Log filters

What of a log is shown. A filter is a text of directives with commas between them. A directive names
a target, a level or both: lines of the target that are at least as grave as the level are shown. A
target stands for all targets whose names begin with its own, and of several directives that a line
falls under, the one with the longest name decides.
-/

namespace Jukebox.CommandLine

/-- How grave a line of the log is. -/
inductive Level
  | error
  | warn
  | info
  | debug
  | trace
  deriving Repr, DecidableEq

namespace Level

/-- The number of a level; the graver, the smaller. -/
def rank : Level → Nat
  | error => 1
  | warn => 2
  | info => 3
  | debug => 4
  | trace => 5

/-- The word for a level. -/
def name : Level → String
  | error => "ERROR"
  | warn => "WARN"
  | info => "INFO"
  | debug => "DEBUG"
  | trace => "TRACE"

/-- All levels, the gravest first. -/
def all : List Level := [error, warn, info, debug, trace]

end Level

/-- A line of the log. -/
structure LogLine where
  level : Level
  /-- The part of the program that it comes from. -/
  target : String
  message : String
  deriving Repr, DecidableEq

/-- A line of the log as it is printed. -/
def LogLine.render (line : LogLine) : String :=
  let gap := String.ofList (List.replicate (5 - line.level.name.length) ' ')
  s!"{gap}{line.level.name} {line.target}: {line.message}"

/-- The least grave level that is shown; nothing is where there is none. -/
abbrev Threshold := Option Level

/-- The threshold that a word or a number stands for, in letters of either case. -/
def threshold? (cs : List Char) : Option Threshold :=
  let word := String.ofList (cs.map Char.toUpper)
  if word = "OFF" ∨ word = "0" then some none
  else
    (Level.all.find? fun level => word = level.name ∨ word = toString level.rank).map some

/-- Which lines a directive is about, and which of them it shows. -/
inductive Directive
  /-- Lines of the targets that begin like this. -/
  | target (start : List Char) (threshold : Threshold)
  /-- Lines from within a piece of work with a name. No line here comes from one. -/
  | within
  deriving Repr, DecidableEq

namespace Directive

/-- A character of the name of a target. Characters beyond ASCII count as letters. -/
def isTargetChar (c : Char) : Bool :=
  c.isAlphanum || c = '_' || c = ':' || c = '-' || 0x80 ≤ c.toNat

/-- What is behind a target or a name in square brackets. -/
def dropPart? (cs : List Char) : Option (List Char) :=
  match cs with
  | [] => none
  | '[' :: rest =>
    match rest.dropWhile (· ≠ ']') with
    | _ :: rest => some rest
    | [] => none
  | c :: rest => if isTargetChar c then some (rest.dropWhile isTargetChar) else none

/-- The threshold at the end of a directive; where none is named, everything is shown. -/
def ending? (cs : List Char) : Option Threshold :=
  match cs with
  | [] | ['='] => some (some .trace)
  | '=' :: word => threshold? word
  | _ => none

/-- A directive about the lines of a target. A level is no target: it stands for all of them. -/
def ofTarget (start : List Char) (threshold : Threshold) : Directive :=
  if (threshold? start).isSome then target [] threshold else target start threshold

/-- Reads a directive. -/
def read? (cs : List Char) : Option Directive :=
  match threshold? cs with
  | some threshold => some (target [] threshold)
  | none => do
    let rest ← dropPart? cs
    match ending? rest with
    | some threshold =>
      some (if cs.head? = some '[' then within else ofTarget (cs.takeWhile isTargetChar) threshold)
    | none =>
      let rest ← dropPart? rest
      (ending? rest).map fun _ => within

end Directive

/-- What is shown of a log. -/
structure LogFilter where
  directives : List Directive
  deriving Repr, DecidableEq

namespace LogFilter

/-- The directives in a text, each by itself. -/
def cut (text : String) : List (List Char) :=
  (text.toList.splitOnP (· = ',')).filter fun part => !part.isEmpty

/-- A filter of some directives. Without any, only errors are shown. -/
def ofDirectives (directives : List Directive) : LogFilter :=
  ⟨if directives.isEmpty then [.target [] (some .error)] else directives⟩

/-- Reads a filter, if all of its directives can be read. -/
def read? (text : String) : Option LogFilter :=
  ((cut text).mapM Directive.read?).map ofDirectives

/-- Reads a filter and passes over what cannot be read. -/
def readLeniently (text : String) : LogFilter :=
  ofDirectives ((cut text).filterMap Directive.read?)

/-- The better of two directives for a target: the second one where it is about the target and names
at least as much of it as the first. -/
def pick (target : List Char) (best : Option (List Char × Threshold)) :
    Directive → Option (List Char × Threshold)
  | .target start threshold =>
    let least := (best.map fun found => found.1.length).getD 0
    if start.isPrefixOf target ∧ least ≤ start.length then some (start, threshold) else best
  | .within => best

/-- The least grave level that is shown of a target. -/
def thresholdFor (f : LogFilter) (target : String) : Threshold :=
  (f.directives.foldl (pick target.toList) none).bind Prod.snd

/-- A line is shown. -/
def shows (f : LogFilter) (line : LogLine) : Bool :=
  (f.thresholdFor line.target).any fun level => line.level.rank ≤ level.rank

end LogFilter

end Jukebox.CommandLine
