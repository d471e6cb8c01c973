import Jukebox.Widget.Basic

/-!
# Widgets that play nothing

A provider without any output. Its widgets are ready at once, report that they play the first time
they are told to, and report that they have ended when a fixed time has passed since then. A widget
that was dropped reports nothing more.
-/

namespace Jukebox.DryRun

/-- How far a widget has come. -/
inductive Life
  /-- It has not been told to play. -/
  | waiting
  /-- It plays, and ends at a time. -/
  | playing (due : Nat)
  /-- It has ended. -/
  | gone
  deriving Repr, DecidableEq

/-- The memory of the provider. -/
structure Memory where
  /-- How long an item lasts, in milliseconds. -/
  duration : Nat
  /-- The time. -/
  now : Nat := 0
  /-- The widgets that have not been dropped. -/
  lives : List (Session × Life) := []
  deriving Repr, DecidableEq

/-- How far the widget of a session has come. -/
def Memory.life? (m : Memory) (session : Session) : Option Life :=
  m.lives.lookup session

/-- The widget of a session comes to a point of its life. -/
def Memory.setLife (m : Memory) (session : Session) (life : Life) : Memory :=
  { m with lives := m.lives.map fun entry => if entry.1 = session then (session, life) else entry }

/-- The provider. -/
def provider : Provider Memory where
  create m session spec :=
    { memory := { m with lives := m.lives ++ [(session, .waiting)] }
      sent := [⟨session, .ready⟩]
      result := .ok spec.identifier }
  play m session :=
    match m.life? session with
    | some .waiting =>
      { memory := m.setLife session (.playing (m.now + m.duration))
        sent := [⟨session, .changed .playing⟩]
        result := .ok () }
    | _ => { memory := m, result := .ok () }
  drop m session := ({ m with lives := m.lives.filter fun entry => entry.1 != session }, [])

/-- When the next of the playing widgets ends. -/
def Memory.nextEnd? (m : Memory) : Option Nat :=
  (m.lives.filterMap fun
    | (_, .playing due) => some due
    | _ => none).min?

/-- It becomes a given time: the widgets that were to end by then have ended and say so. -/
def Memory.reach (m : Memory) (time : Nat) : Memory × List Callback :=
  let ends : Life → Bool
    | .playing due => due ≤ time
    | _ => false
  ({ m with
      now := time
      lives := m.lives.map fun (session, life) => (session, if ends life then .gone else life) },
    m.lives.filterMap fun (session, life) =>
      if ends life then some ⟨session, .changed .ended⟩ else none)

end Jukebox.DryRun
