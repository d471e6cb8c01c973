import Jukebox.Host.Programs
import Jukebox.Widget.Arguments

/-!
# Widgets that run a player

A provider that plays each item with an external player. Its widgets are ready at once and start
the player when they are first told to play. When the player exits with status zero the item has
ended, with any other it has failed. A player that cannot be started leaves its widget as it was,
so it may be tried again. Dropping a widget stops its player, and nothing more is heard of it.
-/

namespace Jukebox.External

open Host

/-- How far a widget has come. -/
inductive Life
  /-- Its player has not been started; the arguments are those it will be started with. -/
  | waiting (args : List String)
  /-- Its player runs until a time and then ends. -/
  | running (due : Nat) (exit : Exit)
  /-- Its player has exited. -/
  | gone
  deriving Repr, DecidableEq

/-- The memory of the provider. -/
structure Memory where
  settings : WidgetSettings
  /-- The time, in milliseconds. -/
  now : Nat := 0
  /-- The widgets that have not been dropped. -/
  lives : List (Session × Life) := []
  deriving Repr, DecidableEq

/-- How far the widget of a session has come. -/
def Memory.life? (m : Memory) (session : Session) : Option Life :=
  m.lives.lookup session

/-- The widget of a session comes to a point of its life. -/
def Memory.setLife (m : Memory) (session : Session) (life : Life) : Memory :=
  { m with lives := m.lives.map fun entry => if entry.1 = session then (session, life) else entry }

/-- What is reported when a player has ended. -/
def exitReport : Exit → Report
  | .status 0 => .changed .ended
  | .unknown cause => .failed s!"failed to wait for player: {cause.message}"
  | exit => .failed s!"player exited with {exit.message}"

/-- The provider, with a way to start programs. -/
def provider (launch : String → List String → Except LaunchError Child) : Provider Memory where
  create m session spec :=
    { memory := { m with lives := m.lives ++ [(session, .waiting (m.settings.argumentsFor spec))] }
      sent := [⟨session, .ready⟩]
      result := .ok spec.identifier }
  play m session :=
    match m.life? session with
    | some (.waiting args) =>
      match launch m.settings.command args with
      | .ok child =>
        { memory := m.setLife session (.running (m.now + child.lasts) child.exit)
          sent := [⟨session, .changed .playing⟩]
          result := .ok () }
      | .error e =>
        { memory := m
          result := .error (.widget s!"failed to spawn {m.settings.command}: {e.message}") }
    | _ => { memory := m, result := .ok () }
  drop m session := ({ m with lives := m.lives.filter fun entry => entry.1 != session }, [])

/-- When the next of the players exits. -/
def Memory.nextExit? (m : Memory) : Option Nat :=
  (m.lives.filterMap fun
    | (_, .running due _) => some due
    | _ => none).min?

/-- It becomes a given time: the players that were to exit by then have exited, and their widgets
say so. -/
def Memory.reach (m : Memory) (time : Nat) : Memory × List Callback :=
  let exit? : Life → Option Exit
    | .running due exit => if due ≤ time then some exit else none
    | _ => none
  ({ m with
      now := time
      lives := m.lives.map fun (session, life) =>
        (session, if (exit? life).isSome then .gone else life) },
    m.lives.filterMap fun (session, life) =>
      (exit? life).map fun exit => ⟨session, exitReport exit⟩)

end Jukebox.External
