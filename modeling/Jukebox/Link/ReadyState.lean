import Jukebox.Document.Decode

/-!
# The ready state of a connection

A connection is connecting, open, closing or closed, in this order. Each state has a word and a
number; a number without a state of its own reads as closed.
-/

namespace Jukebox

/-- How far a connection has come. -/
inductive ReadyState
  | connecting
  | opened
  | closing
  | closed
  deriving Repr, DecidableEq

namespace ReadyState

/-- The word for a state. -/
def name : ReadyState → String
  | connecting => "connecting"
  | opened => "open"
  | closing => "closing"
  | closed => "closed"

/-- The states under their words. -/
def names : List (String × ReadyState) :=
  [("connecting", connecting), ("open", opened), ("closing", closing), ("closed", closed)]

/-- The number of a state. -/
def code : ReadyState → Nat
  | connecting => 0
  | opened => 1
  | closing => 2
  | closed => 3

/-- The state with a number; every other number reads as closed. -/
def ofCode : Nat → ReadyState
  | 0 => connecting
  | 1 => opened
  | 2 => closing
  | _ => closed

/-- The state that a JSON value names. -/
def ofDocument (d : Document) : Decoded ReadyState :=
  d.toChoice .json names

@[simp] theorem ofCode_code (s : ReadyState) : ofCode s.code = s := by
  cases s <;> rfl

end ReadyState

end Jukebox
