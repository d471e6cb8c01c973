import Jukebox.Player.Basic

/-!
# The loop of the player

From its start to its end the player does one thing over and over. It looks whether it has been told
to stop and whether an input waits, in no fixed order, and goes by the first that is the case: it
comes to its end, or handles that input. If neither is the case it waits, and looks again.

What there is to see is given from outside, look by look.
-/

namespace Jukebox

/-- What there is to see at one look. -/
structure Look where
  /-- The inputs that others have put in the line since the last look. -/
  arrived : List Input := []
  /-- The player has been told to stop. -/
  told : Bool := false
  /-- It is looked whether to stop before it is looked whether an input waits. -/
  stopFirst : Bool := false
  deriving Repr, DecidableEq

/-- A player in its loop, or at its end. -/
inductive Looping (σ : Type)
  | going (p : Player σ)
  | ended (p : Player σ)

namespace Player

variable {σ : Type}

/-- One look, and what is done because of it. -/
def look (P : Provider σ) (connector : Connector) (l : Look) (p : Player σ) :
    Looping σ × List Act :=
  let p := { p with inbox := p.inbox ++ l.arrived }
  if l.told && (l.stopFirst || p.inbox.isEmpty) then
    let (p, acts) := p.shutdown P
    (.ended p, acts)
  else
    match p.handleNext? P connector with
    | some (p, acts) => (.going p, acts)
    | none => (.going p, [])

/-- Look after look, until the player comes to its end. -/
def loop (P : Provider σ) (connector : Connector) : List Look → Player σ → Looping σ × List Act
  | [], p => (.going p, [])
  | l :: looks, p =>
    match p.look P connector l with
    | (.ended p, acts) => (.ended p, acts)
    | (.going p, acts) =>
      let (p, more) := loop P connector looks p
      (p, acts ++ more)

end Player

end Jukebox
