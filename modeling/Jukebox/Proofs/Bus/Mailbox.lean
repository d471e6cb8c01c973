import Jukebox.Bus
import Mathlib.Algebra.Ring.Nat
import Mathlib.Data.List.Induction

/-!
# One subscriber by itself

What a subscriber of the bus gets depends on two things only: the values it is offered and the
moments at which it asks (`Sight`). A `Mailbox` is a subscriber that is told of these and of nothing
else. It keeps all the values before it; when it asks with more of them than the capacity, the
oldest are gone and it gets their number.

`Accounts` ties the receipts to the values that the subscriber has come past: each was received, or
is among those that a report of lost values counts. That it holds of every mailbox
(`Mailbox.exists_accounts`) is an induction from the end of the run, since receipts and values grow
there.
-/

namespace Jukebox

variable {α : Type}

namespace Receipt

/-- The value received, if one was. -/
def value? : Receipt α → Option α
  | value a => some a
  | _ => none

/-- How many values are reported lost. -/
def lost : Receipt α → Nat
  | lagged n => n
  | _ => 0

/-- The values received. -/
def values (receipts : List (Receipt α)) : List α :=
  receipts.filterMap value?

/-- How many values were lost. -/
def allLost (receipts : List (Receipt α)) : Nat :=
  (receipts.map lost).sum

/-- The values that a subscriber has come past, and the receipts it got for them. -/
inductive Accounts : List α → List (Receipt α) → Prop
  | start : Accounts [] []
  | empty {passed : List α} {receipts : List (Receipt α)} :
      Accounts passed receipts → Accounts passed (receipts ++ [.empty])
  | value {passed : List α} {receipts : List (Receipt α)} (a : α) :
      Accounts passed receipts → Accounts (passed ++ [a]) (receipts ++ [.value a])
  | lagged {passed : List α} {receipts : List (Receipt α)} (lost : List α) :
      Accounts passed receipts → Accounts (passed ++ lost) (receipts ++ [.lagged lost.length])

theorem values_map (values : List α) : Receipt.values (values.map .value) = values := by
  rw [Receipt.values, List.filterMap_map]
  exact List.filterMap_some

theorem values_concat (receipts : List (Receipt α)) (r : Receipt α) :
    values (receipts ++ [r]) = values receipts ++ r.value?.toList := by
  rw [values, List.filterMap_append]
  cases r <;> rfl

theorem allLost_concat (receipts : List (Receipt α)) (r : Receipt α) :
    allLost (receipts ++ [r]) = allLost receipts + r.lost := by
  simp [allLost]

namespace Accounts

variable {passed : List α} {receipts : List (Receipt α)}

/-- The values received are among those passed, in the same order and each at most once. -/
theorem values_sublist (h : Accounts passed receipts) : (values receipts).Sublist passed := by
  induction h with
  | start => exact List.Sublist.slnil
  | empty _ ih =>
    rw [values_concat]
    simpa [value?] using ih
  | value a _ ih =>
    rw [values_concat]
    exact ih.append (List.Sublist.refl [a])
  | lagged lost _ ih =>
    rw [values_concat]
    exact ih.append (List.nil_sublist lost)

/-- Each value passed was received or is counted as lost. -/
theorem length_eq (h : Accounts passed receipts) :
    (values receipts).length + allLost receipts = passed.length := by
  induction h with
  | start => rfl
  | empty _ ih =>
    rw [values_concat, allLost_concat]
    simpa [value?, lost] using ih
  | value a _ ih =>
    rw [values_concat, allLost_concat, List.length_append, List.length_append, ← ih]
    simp only [value?, lost, Option.toList_some, List.length_singleton]
    omega
  | lagged lost _ ih =>
    rw [values_concat, allLost_concat, List.length_append, List.length_append, ← ih]
    simp only [value?, Receipt.lost, Option.toList_none, List.length_nil]
    omega

end Accounts

end Receipt

namespace Bus

/-- What a subscriber with these values before it gets, and the values that are before it then. -/
def take (capacity : Nat) (unread : List α) : List α × Receipt α :=
  if capacity < unread.length then
    (unread.drop (unread.length - capacity), .lagged (unread.length - capacity))
  else
    match unread with
    | [] => ([], .empty)
    | a :: rest => (rest, .value a)

theorem take_of_lt {capacity : Nat} {unread : List α} (h : capacity < unread.length) :
    take capacity unread =
      (unread.drop (unread.length - capacity), .lagged (unread.length - capacity)) := if_pos h

theorem take_nil (capacity : Nat) : take capacity ([] : List α) = ([], .empty) := rfl

theorem take_cons {capacity : Nat} {a : α} {rest : List α} (h : (a :: rest).length ≤ capacity) :
    take capacity (a :: rest) = (rest, .value a) := if_neg (Nat.not_lt.2 h)

/-- The receipt: the first value, or the number of those that are too many. -/
theorem take_snd (capacity : Nat) (unread : List α) : (take capacity unread).2 =
    if capacity < unread.length then .lagged (unread.length - capacity)
    else unread.head?.elim .empty .value := by
  by_cases h : capacity < unread.length
  · rw [take_of_lt h, if_pos h]
  · rw [if_neg h]
    cases unread with
    | nil => rfl
    | cons a rest =>
      rw [take_cons (Nat.le_of_not_lt h)]
      rfl

/-- What is no longer before a subscriber after it asked is what was in front, and its receipt
accounts for that. -/
theorem exists_accounts_take (capacity : Nat) (unread : List α) {passed : List α}
    {receipts : List (Receipt α)} (h : Receipt.Accounts passed receipts) :
    ∃ more, unread = more ++ (take capacity unread).1 ∧
      Receipt.Accounts (passed ++ more) (receipts ++ [(take capacity unread).2]) := by
  by_cases hlagged : capacity < unread.length
  · rw [take_of_lt hlagged]
    refine ⟨unread.take (unread.length - capacity), (List.take_append_drop _ _).symm, ?_⟩
    have hlost : (unread.take (unread.length - capacity)).length = unread.length - capacity :=
      List.length_take_of_le (by omega)
    have haccounts := h.lagged (unread.take (unread.length - capacity))
    rwa [hlost] at haccounts
  · cases unread with
    | nil => exact ⟨[], rfl, by simpa [take_nil] using h.empty⟩
    | cons a rest =>
      rw [take_cons (Nat.le_of_not_lt hlagged)]
      exact ⟨[a], rfl, h.value a⟩

end Bus

/-! ## Mailboxes -/

/-- What happens to one subscriber. -/
inductive Sight (α : Type)
  /-- A value is sent. -/
  | offered (a : α)
  /-- The subscriber asks for its next value. -/
  | asked
  deriving DecidableEq

/-- The value sent, if one was. -/
def Sight.value? : Sight α → Option α
  | offered a => some a
  | asked => none

/-- One subscriber: the values before it, and what it got so far. -/
structure Mailbox (α : Type) where
  unread : List α := []
  receipts : List (Receipt α) := []

namespace Mailbox

/-- What happens next to a subscriber. -/
def next (capacity : Nat) (m : Mailbox α) : Sight α → Mailbox α
  | .offered a => { m with unread := m.unread ++ [a] }
  | .asked =>
    let (unread, receipt) := Bus.take capacity m.unread
    { unread, receipts := m.receipts ++ [receipt] }

/-- A subscriber after all this has happened to it. -/
def follow (capacity : Nat) (m : Mailbox α) (sights : List (Sight α)) : Mailbox α :=
  sights.foldl (next capacity) m

/-- A new subscriber after all this has happened to it. -/
def after (capacity : Nat) (sights : List (Sight α)) : Mailbox α :=
  follow capacity {} sights

theorem follow_append (capacity : Nat) (m : Mailbox α) (sights more : List (Sight α)) :
    m.follow capacity (sights ++ more) = (m.follow capacity sights).follow capacity more :=
  List.foldl_append ..

theorem after_concat (capacity : Nat) (sights : List (Sight α)) (sight : Sight α) :
    after capacity (sights ++ [sight]) = (after capacity sights).next capacity sight :=
  follow_append capacity {} sights [sight]

/-- The values sent to a subscriber are those that it has come past, all accounted for by its
receipts, and after them those before it. -/
theorem exists_accounts (capacity : Nat) (sights : List (Sight α)) :
    ∃ passed, sights.filterMap Sight.value? = passed ++ (after capacity sights).unread ∧
      Receipt.Accounts passed (after capacity sights).receipts := by
  induction sights using List.reverseRecOn with
  | nil => exact ⟨[], rfl, .start⟩
  | append_singleton sights sight ih =>
    obtain ⟨passed, hsent, haccounts⟩ := ih
    rw [after_concat, List.filterMap_append, hsent]
    cases sight with
    | offered a => exact ⟨passed, List.append_assoc .., haccounts⟩
    | asked =>
      obtain ⟨more, hmore, haccounts⟩ :=
        Bus.exists_accounts_take capacity (after capacity sights).unread haccounts
      refine ⟨passed ++ more, ?_, haccounts⟩
      calc passed ++ (after capacity sights).unread ++ [Sight.asked].filterMap Sight.value?
        _ = passed ++ (after capacity sights).unread := List.append_nil _
        _ = passed ++ (more ++ (Bus.take capacity (after capacity sights).unread).1) := by
          rw [← hmore]
        _ = passed ++ more ++ _ := (List.append_assoc ..).symm

end Mailbox

end Jukebox
