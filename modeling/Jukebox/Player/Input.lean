import Jukebox.Widget.Basic

/-!
# What the player reacts to

Reports of connections, reports of widgets and the ticks of the two timers.
-/

namespace Jukebox

/-- What the player reacts to. -/
inductive Input
  /-- The connection of a generation is open. -/
  | opened (generation : Nat)
  /-- The connection of a generation has closed. -/
  | closed (generation : Nat)
  /-- Something went wrong with the connection of a generation. -/
  | failed (generation : Nat) (reason : String)
  /-- A text came in on the connection of a generation. -/
  | message (generation : Nat) (text : String)
  /-- A widget reports. -/
  | widget (callback : Callback)
  /-- It is time to look at the connection. -/
  | healthTick
  /-- It is time to look at the queue. -/
  | playbackTick
  deriving Repr, DecidableEq

/-- The generation of the connection that an input comes from, if it comes from one. -/
def Input.generation? : Input → Option Nat
  | opened generation | closed generation | failed generation _ | message generation _ =>
    some generation
  | widget _ | healthTick | playbackTick => none

end Jukebox
