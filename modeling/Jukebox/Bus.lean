/-!
# The bus

Values are sent to every subscriber at once. The bus keeps the latest values, as many as its
capacity says, and each subscriber has a place of its own in the row of all values sent. One that
falls further behind than the capacity loses the oldest values; nobody waits for it, and nobody
else notices.

Places count all values ever sent, so what a subscriber has received, lost and still has before it
adds up to what was sent since it came.
-/

namespace Jukebox

/-- A bus for values of a type. -/
structure Bus (α : Type) where
  /-- How many values are kept. -/
  capacity : Nat
  /-- The latest values, the oldest first. -/
  kept : List α := []
  /-- How many values were ever sent. -/
  sent : Nat := 0
  /-- The place of each subscriber that ever came; `none` for one that has left. -/
  places : List (Option Nat) := []
  deriving Repr

/-- What a subscriber gets. -/
inductive Receipt (α : Type)
  /-- There is nothing new. -/
  | empty
  /-- The next value. -/
  | value (a : α)
  /-- Some values were lost; the next one is the oldest kept. -/
  | lagged (lost : Nat)
  /-- There is no such subscriber. -/
  | gone
  deriving Repr, DecidableEq

namespace Bus

variable {α : Type}

/-- The least power of two that is not below `n`. -/
def roundUp (n : Nat) : Nat :=
  if n ≤ 1 then 1 else Nat.pow 2 (Nat.log2 (n - 1) + 1)

/-- A bus that keeps at least `capacity` values, a power of two. There is no bus that keeps none. -/
def ofCapacity? (capacity : Nat) : Option (Bus α) :=
  if capacity = 0 then none else some { capacity := roundUp capacity }

/-- The capacity where none is asked for. -/
def defaultCapacity : Nat := 256

/-- How many subscribers there are. -/
def subscribers (bus : Bus α) : Nat :=
  (bus.places.filter Option.isSome).length

/-- A new subscriber comes, to whom only later values are sent. -/
def subscribe (bus : Bus α) : Bus α × Nat :=
  ({ bus with places := bus.places ++ [some bus.sent] }, bus.places.length)

/-- A subscriber leaves. -/
def leave (bus : Bus α) (subscriber : Nat) : Bus α :=
  { bus with places := bus.places.set subscriber none }

/-- A value is sent to all subscribers; the outcome says to how many. Without any it is not sent but
given back. -/
def send (bus : Bus α) (a : α) : Bus α × Except α Nat :=
  if bus.subscribers = 0 then (bus, .error a)
  else
    let row := bus.kept ++ [a]
    ({ bus with kept := row.drop (row.length - bus.capacity), sent := bus.sent + 1 },
      .ok bus.subscribers)

/-- A value is sent to all subscribers; the outcome says to how many, if to any. -/
def emit (bus : Bus α) (a : α) : Bus α × Option Nat :=
  let (bus, outcome) := bus.send a
  (bus, outcome.toOption)

/-- A value is sent to all subscribers, if there are any. -/
def emitLossy (bus : Bus α) (a : α) : Bus α :=
  (bus.send a).1

/-- The place of a subscriber, unless it has left. -/
def place? (bus : Bus α) (subscriber : Nat) : Option Nat :=
  (bus.places[subscriber]?).join

/-- A subscriber asks for its next value. -/
def receive (bus : Bus α) (subscriber : Nat) : Bus α × Receipt α :=
  match bus.place? subscriber with
  | none => (bus, .gone)
  | some place =>
    let unread := bus.sent - place
    if bus.capacity < unread then
      ({ bus with places := bus.places.set subscriber (some (bus.sent - bus.capacity)) },
        .lagged (unread - bus.capacity))
    else
      match bus.kept[bus.kept.length - unread]? with
      | none => (bus, .empty)
      | some a => ({ bus with places := bus.places.set subscriber (some (place + 1)) }, .value a)

/-- A subscriber asks for one value after the other until there is nothing new. -/
def drain (bus : Bus α) (subscriber : Nat) : Nat → Bus α × List (Receipt α)
  | 0 => (bus, [])
  | fuel + 1 =>
    match bus.receive subscriber with
    | (bus, .empty) => (bus, [])
    | (bus, .gone) => (bus, [])
    | (bus, receipt) =>
      let (bus, receipts) := bus.drain subscriber fuel
      (bus, receipt :: receipts)

/-- A subscriber asks for all there is: at most one report of lost values, and the values kept. -/
def receiveAll (bus : Bus α) (subscriber : Nat) : Bus α × List (Receipt α) :=
  bus.drain subscriber (bus.capacity + 2)

theorem le_roundUp (n : Nat) : n ≤ roundUp n := by
  unfold roundUp
  split
  · assumption
  · have := @Nat.lt_log2_self (n - 1)
    rw [Nat.pow_eq]
    omega

theorem roundUp_lt {n : Nat} (h : 0 < n) : roundUp n < 2 * n := by
  unfold roundUp
  split
  · omega
  · have hlog : 2 ^ (n - 1).log2 ≤ n - 1 := Nat.log2_self_le (by omega)
    rw [Nat.pow_eq, Nat.pow_succ]
    omega

end Bus

end Jukebox
