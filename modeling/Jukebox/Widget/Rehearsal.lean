import Jukebox.Widget.Basic

/-!
# Rehearsals

A provider for rehearsals: what the widget of each identifier reports, and where it fails, is
written down beforehand. Identifiers that the script does not mention get a widget that reports that
it is ready and plays without a word.
-/

namespace Jukebox.Rehearsal

/-- The kind of a failure. -/
inductive Failure
  | widget
  | http
  | io
  deriving Repr, DecidableEq

/-- The failure with its reason. -/
def Failure.error (failure : Failure) (reason : String) : PlayerError :=
  match failure with
  | widget => .widget reason
  | http => .http reason
  | io => .io reason

/-- What the widget of an identifier does. -/
structure Part where
  /-- It reports that it is ready when it is made. -/
  ready : Bool := true
  /-- What it reports besides when it is made. -/
  onCreate : List Report := []
  /-- It is refused. -/
  reject : Option Failure := none
  /-- The identifier it reports, where that is another. -/
  name : Option String := none
  /-- What it reports when it is told to play. -/
  onPlay : List Report := []
  /-- It fails to play. -/
  failPlay : Option Failure := none
  deriving Repr, DecidableEq

/-- The parts of the identifiers. -/
abbrev Script := String → Part

/-- The parts that the widgets play. -/
abbrev Memory := List (Session × Part)

/-- Reports in the name of a session. -/
def callbacks (session : Session) (reports : List Report) : List Callback :=
  reports.map fun report => ⟨session, report⟩

/-- The provider that follows a script. -/
def provider (script : Script) : Provider Memory where
  create memory session spec :=
    let part := script spec.identifier
    { memory := (session, part) :: memory
      sent := callbacks session ((if part.ready then [.ready] else []) ++ part.onCreate)
      result := match part.reject with
        | some failure => .error (failure.error ("rejected " ++ spec.identifier))
        | none => .ok (part.name.getD spec.identifier) }
  play memory session :=
    let part := (memory.lookup session).getD {}
    { memory
      sent := callbacks session part.onPlay
      result := match part.failPlay with
        | some failure => .error (failure.error "play failed")
        | none => .ok () }
  drop memory _ := (memory, [])

end Jukebox.Rehearsal
