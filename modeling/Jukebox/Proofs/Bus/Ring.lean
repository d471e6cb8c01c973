import Jukebox.Proofs.Bus.Run

/-!
# The ring

The latest values need no more room than the capacity: they fit in a ring of so many slots, where
every value goes to the slot of its place modulo the capacity, over whatever is there. A slot is
written again only when as many values have come as there are slots, so those that the bus keeps are
just those that are still in the ring (`kept_in_ring`).
-/

namespace Jukebox.Bus

variable {α : Type}

/-- Slots, and how many values were written to them. -/
structure Ring (α : Type) where
  slots : List (Option α)
  written : Nat := 0

namespace Ring

/-- The next value takes the next slot, after the last one the first again. -/
def write (ring : Ring α) (a : α) : Ring α where
  slots := ring.slots.set (ring.written % ring.slots.length) (some a)
  written := ring.written + 1

/-- A ring to which all these values were written. -/
def filled (capacity : Nat) (row : List α) : Ring α :=
  row.foldl write { slots := List.replicate capacity none }

/-- What is in the slot of a place. -/
def get? (ring : Ring α) (place : Nat) : Option α :=
  (ring.slots[place % ring.slots.length]?).join

variable {capacity : Nat}

theorem filled_concat (row : List α) (a : α) :
    filled capacity (row ++ [a]) = (filled capacity row).write a :=
  List.foldl_append ..

theorem written_filled (row : List α) : (filled capacity row).written = row.length := by
  induction row using List.reverseRecOn with
  | nil => rfl
  | append_singleton row a ih =>
    rw [filled_concat, write, ih, List.length_append]
    rfl

theorem length_slots_filled (row : List α) : (filled capacity row).slots.length = capacity := by
  induction row using List.reverseRecOn with
  | nil => exact List.length_replicate
  | append_singleton row a ih => rw [filled_concat, write, List.length_set, ih]

/-- Two places have the same slot only if they are as far apart as there are slots. -/
theorem mod_ne_mod {n m : Nat} (hlt : n < m) (hnear : m < n + capacity) :
    n % capacity ≠ m % capacity := by
  intro heq
  have hdvd : capacity ∣ m - n :=
    Nat.dvd_of_mod_eq_zero (Nat.sub_mod_eq_zero_of_mod_eq heq.symm)
  have hle := Nat.le_of_dvd (by omega) hdvd
  omega

/-- The latest values are in the slots of their places. -/
theorem get?_filled {row : List α} {n : Nat} (hn : n < row.length)
    (hlatest : row.length ≤ n + capacity) : (filled capacity row).get? n = row[n]? := by
  induction row using List.reverseRecOn with
  | nil => exact absurd hn (Nat.not_lt_zero n)
  | append_singleton row a ih =>
    rw [List.length_append, List.length_singleton] at hn hlatest
    rw [filled_concat, get?, write, List.length_set, length_slots_filled, written_filled]
    rcases Nat.lt_succ_iff_lt_or_eq.1 hn with hlt | rfl
    · have hother : n % capacity ≠ row.length % capacity := mod_ne_mod hlt (by omega)
      have hbefore := ih hlt (by omega)
      rw [get?, length_slots_filled] at hbefore
      rw [join_getElem?_set_ne _ hother, hbefore, List.getElem?_append_left hlt]
    · have hslot : row.length % capacity < (filled capacity row).slots.length := by
        rw [length_slots_filled]
        exact Nat.mod_lt _ (by omega)
      rw [join_getElem?_set_self hslot, List.getElem?_concat_length]

end Ring

/-- The values kept are those in the slots of the latest places. -/
theorem Keeps.map_some_kept {bus : Bus α} {row : List α} (h : bus.Keeps row) :
    bus.kept.map some = (List.range' (bus.sent - bus.capacity) (min bus.sent bus.capacity)).map
      (Ring.filled bus.capacity row).get? := by
  apply List.ext_getElem
  · rw [List.length_map, List.length_map, List.length_range', h.kept, h.sent, List.length_drop]
    omega
  · intro k hk _
    have hkept : k < (row.drop (row.length - bus.capacity)).length := by
      rwa [List.length_map, h.kept] at hk
    rw [List.length_drop] at hkept
    have hplace : row.length - bus.capacity + k < row.length := by omega
    have hslot : (Ring.filled bus.capacity row).get? (row.length - bus.capacity + k) =
        row[row.length - bus.capacity + k]? := Ring.get?_filled hplace (by omega)
    rw [List.getElem_map, List.getElem_map, List.getElem_range', h.sent, Nat.one_mul, hslot]
    simp only [h.kept, List.getElem_drop, List.getElem?_eq_getElem hplace]

/-- At any time, what a bus keeps is what is in a ring of as many slots as its capacity, to which
all values ever sent were written one after the other. -/
theorem kept_in_ring {size : Nat} {bus : Bus α} (h : ofCapacity? size = some bus)
    (ops : List (Op α)) : ∃ row : List α,
      let later := (bus.run ops).1
      later.sent = row.length ∧
        later.kept.map some =
          (List.range' (later.sent - bus.capacity) (min later.sent bus.capacity)).map
            (Ring.filled bus.capacity row).get? := by
  have hstart := InOrder.ofCapacity? h
  have hlater := hstart.run ops
  obtain ⟨row, hkeeps⟩ := hlater.keeps
  have hkept := hkeeps.map_some_kept
  rw [hlater.capacity_eq] at hkept
  exact ⟨row, hkeeps.sent, hkept⟩

end Jukebox.Bus
