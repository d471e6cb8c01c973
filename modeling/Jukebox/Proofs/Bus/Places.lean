import Jukebox.Proofs.Bus.Mailbox

/-!
# Places in the row of all values

The bus keeps the end of the row of all values ever sent (`Keeps`), and the values before a
subscriber are those of the row from its place on, kept or not (`Serves`). Each operation is
described once by what it does to them: a value sent is one more before every subscriber
(`Serves.send`), a subscriber that asks gets what a mailbox gets (`Serves.receive`), and whatever
else happens at another place changes nothing (`Serves.put`).
-/

namespace Jukebox

/-! ## Lists of entries that may be gone -/

theorem join_getElem?_concat {β : Type} (entries : List (Option β)) (entry : Option β) (k : Nat) :
    ((entries ++ [entry])[k]?).join =
      if k = entries.length then entry else (entries[k]?).join := by
  split
  · rename_i hk
    rw [hk, List.getElem?_concat_length, Option.join_some]
  · rename_i hk
    rcases Nat.lt_or_gt_of_ne hk with hlt | hgt
    · rw [List.getElem?_append_left hlt]
    · have hbehind : (entries ++ [entry]).length ≤ k := by
        rw [List.length_append]
        exact hgt
      rw [List.getElem?_eq_none hbehind, List.getElem?_eq_none (Nat.le_of_lt hgt)]

theorem join_getElem?_set_ne {β : Type} (entries : List (Option β)) {j k : Nat} (h : k ≠ j)
    (entry : Option β) : ((entries.set j entry)[k]?).join = (entries[k]?).join := by
  rw [List.getElem?_set_ne h.symm]

theorem join_getElem?_set_self {β : Type} {entries : List (Option β)} {j : Nat}
    (h : j < entries.length) (entry : Option β) : ((entries.set j entry)[j]?).join = entry := by
  rw [List.getElem?_set_self h, Option.join_some]

theorem join_getElem?_set_none {β : Type} (entries : List (Option β)) (j : Nat) :
    ((entries.set j none)[j]?).join = none := by
  by_cases h : j < entries.length
  · exact join_getElem?_set_self h none
  · have hnone : (entries.set j none)[j]? = none := by
      rw [List.getElem?_eq_none_iff, List.length_set]
      exact Nat.le_of_not_lt h
    rw [hnone, Option.join_none]

theorem lt_of_join_getElem? {β : Type} {entries : List (Option β)} {k : Nat} {b : β}
    (h : (entries[k]?).join = some b) : k < entries.length := by
  rw [Option.join_eq_some_iff] at h
  exact (List.getElem?_eq_some_iff.1 h).1

namespace Bus

variable {α : Type} {bus : Bus α}

/-! ## The latest values -/

/-- These are all values ever sent, and the latest of them are kept. -/
structure Keeps (bus : Bus α) (row : List α) : Prop where
  sent : bus.sent = row.length
  kept : bus.kept = row.drop (row.length - bus.capacity)

/-- The outcome of sending where there are subscribers. -/
theorem send_of_pos (h : 0 < bus.subscribers) (a : α) : bus.send a =
    ({ bus with
        kept := (bus.kept ++ [a]).drop ((bus.kept ++ [a]).length - bus.capacity)
        sent := bus.sent + 1 }, .ok bus.subscribers) := if_neg (by omega)

/-- The outcome of sending where there are none. -/
theorem send_of_eq_zero (h : bus.subscribers = 0) (a : α) : bus.send a = (bus, .error a) :=
  if_pos h

@[simp] theorem capacity_send (bus : Bus α) (a : α) : (bus.send a).1.capacity = bus.capacity := by
  rw [send]
  split <;> rfl

@[simp] theorem places_send (bus : Bus α) (a : α) : (bus.send a).1.places = bus.places := by
  rw [send]
  split <;> rfl

theorem Keeps.send {row : List α} (h : bus.Keeps row) (hpos : 0 < bus.subscribers) (a : α) :
    (bus.send a).1.Keeps (row ++ [a]) := by
  rw [send_of_pos hpos]
  constructor
  · have hlength : (row ++ [a]).length = row.length + 1 := List.length_append
    rw [hlength, ← h.sent]
  · -- The values dropped before and those dropped now are together the values that are too many.
    have hfront : row.length - bus.capacity ≤ row.length := Nat.sub_le ..
    have hlatest : bus.kept ++ [a] = (row ++ [a]).drop (row.length - bus.capacity) := by
      rw [List.drop_append_of_le_length hfront, h.kept]
    have hcount : row.length - bus.capacity + ((bus.kept ++ [a]).length - bus.capacity) =
        (row ++ [a]).length - bus.capacity := by
      rw [hlatest, List.length_drop, List.length_append, List.length_singleton]
      omega
    rw [← hcount, ← List.drop_drop, ← hlatest]

/-- As long as no more values than the capacity are still to be read, the next one is kept. -/
theorem Keeps.getElem?_kept {passed unread : List α} (h : bus.Keeps (passed ++ unread))
    (hunread : unread.length ≤ bus.capacity) :
    bus.kept[bus.kept.length - unread.length]? = unread.head? := by
  have hindex : (passed ++ unread).length - bus.capacity + (bus.kept.length - unread.length) =
      passed.length := by
    rw [h.kept, List.length_drop, List.length_append]
    omega
  calc bus.kept[bus.kept.length - unread.length]?
    _ = (passed ++ unread)[passed.length]? := by rw [← hindex, ← List.getElem?_drop, ← h.kept]
    _ = unread[0]? := by rw [List.getElem?_append_right (Nat.le_refl _), Nat.sub_self]
    _ = unread.head? := List.head?_eq_getElem?.symm

/-! ## Places -/

/-- The place of a subscriber is set. -/
def put (bus : Bus α) (i : Nat) (place : Option Nat) : Bus α :=
  { bus with places := bus.places.set i place }

theorem place?_put_of_ne {i j : Nat} (h : j ≠ i) (place : Option Nat) :
    (bus.put i place).place? j = bus.place? j :=
  join_getElem?_set_ne bus.places h place

theorem lt_of_place? {i place : Nat} (h : bus.place? i = some place) : i < bus.places.length :=
  lt_of_join_getElem? h

theorem place?_put_self {i : Nat} (h : i < bus.places.length) (place : Option Nat) :
    (bus.put i place).place? i = place :=
  join_getElem?_set_self h place

/-- A subscriber that has left stays away. -/
theorem place?_leave_self (bus : Bus α) (i : Nat) : (bus.leave i).place? i = none :=
  join_getElem?_set_none bus.places i

/-- When a subscriber leaves there is one subscriber fewer. -/
theorem subscribers_leave {i place : Nat} (h : bus.place? i = some place) :
    bus.subscribers = (bus.leave i).subscribers + 1 := by
  have hi := lt_of_place? h
  have hsome : bus.places[i] = some place := by
    rwa [place?, List.getElem?_eq_getElem hi, Option.join_some] at h
  have hmem : some place ∈ bus.places := hsome ▸ List.getElem_mem hi
  have hpos : 0 < bus.places.countP Option.isSome := List.countP_pos_iff.2 ⟨_, hmem, rfl⟩
  rw [subscribers, subscribers, leave, ← List.countP_eq_length_filter,
    ← List.countP_eq_length_filter, List.countP_set hi, hsome]
  simp only [Option.isSome_some, Option.isSome_none, if_true, Bool.false_eq_true, if_false]
  omega

theorem put_put (bus : Bus α) (i : Nat) (place place' : Option Nat) :
    (bus.put i place).put i place' = bus.put i place' := by
  rw [put, put, put, List.set_set]

/-- Nothing changes where a subscriber is put at its own place. -/
theorem put_self (bus : Bus α) (i : Nat) : bus.put i (bus.place? i) = bus := by
  have hplaces : bus.places.set i (bus.place? i) = bus.places := by
    by_cases h : i < bus.places.length
    · rw [place?, List.getElem?_eq_getElem h, Option.join_some, List.set_getElem_self]
    · exact List.set_eq_of_length_le (Nat.le_of_not_lt h)
  rw [put, hplaces]

theorem keeps_put {row : List α} {i : Nat} {place : Option Nat} :
    (bus.put i place).Keeps row ↔ bus.Keeps row :=
  ⟨fun h => ⟨h.sent, h.kept⟩, fun h => ⟨h.sent, h.kept⟩⟩

theorem place?_subscribe (bus : Bus α) (i : Nat) : bus.subscribe.1.place? i =
    if i = bus.places.length then some bus.sent else bus.place? i :=
  join_getElem?_concat ..

/-- What asking does where these values are before the subscriber. -/
theorem Keeps.receive_eq {passed unread : List α} (h : bus.Keeps (passed ++ unread)) {i : Nat}
    (hplace : bus.place? i = some passed.length) : bus.receive i =
      if bus.capacity < unread.length then
        (bus.put i (some (bus.sent - bus.capacity)), .lagged (unread.length - bus.capacity))
      else
        match unread with
        | [] => (bus, .empty)
        | a :: _ => (bus.put i (some (passed.length + 1)), .value a) := by
  have hunread : bus.sent - passed.length = unread.length := by
    rw [h.sent, List.length_append, Nat.add_sub_cancel_left]
  rw [receive, hplace]
  dsimp only
  rw [hunread]
  by_cases hlagged : bus.capacity < unread.length
  · rw [if_pos hlagged, if_pos hlagged]
    rfl
  · rw [if_neg hlagged, if_neg hlagged, h.getElem?_kept (Nat.le_of_not_lt hlagged)]
    cases unread <;> rfl

/-! ## The values before a subscriber -/

/-- The values before a subscriber are those from its place on. -/
def Serves (bus : Bus α) (i : Nat) (unread : List α) : Prop :=
  ∃ passed, bus.Keeps (passed ++ unread) ∧ bus.place? i = some passed.length

/-- How many values are before a subscriber; none for one that is not there. -/
def backlog (bus : Bus α) (i : Nat) : Nat :=
  match bus.place? i with
  | some place => bus.sent - place
  | none => 0

namespace Serves

variable {i : Nat} {unread : List α}

theorem subscribers_pos (h : bus.Serves i unread) : 0 < bus.subscribers := by
  obtain ⟨passed, -, hplace⟩ := h
  rw [subscribers_leave hplace]
  exact Nat.succ_pos _

theorem backlog_eq (h : bus.Serves i unread) : bus.backlog i = unread.length := by
  obtain ⟨passed, hkeeps, hplace⟩ := h
  rw [backlog, hplace, hkeeps.sent, List.length_append]
  exact Nat.add_sub_cancel_left ..

/-- Before a new subscriber there is nothing. -/
theorem subscribe {row : List α} (h : bus.Keeps row) :
    bus.subscribe.1.Serves bus.subscribe.2 [] := by
  refine ⟨row, ?_, ?_⟩
  · rw [List.append_nil]
    exact ⟨h.sent, h.kept⟩
  · rw [place?_subscribe, ← h.sent]
    exact if_pos rfl

theorem subscribe_other (h : bus.Serves i unread) : bus.subscribe.1.Serves i unread := by
  obtain ⟨passed, hkeeps, hplace⟩ := h
  have hne : i ≠ bus.places.length := Nat.ne_of_lt (lt_of_place? hplace)
  refine ⟨passed, ⟨hkeeps.sent, hkeeps.kept⟩, ?_⟩
  rw [place?_subscribe, if_neg hne]
  exact hplace

/-- Whatever happens at another place changes nothing. -/
theorem put (h : bus.Serves i unread) {j : Nat} (hne : i ≠ j) (place : Option Nat) :
    (bus.put j place).Serves i unread := by
  obtain ⟨passed, hkeeps, hplace⟩ := h
  exact ⟨passed, keeps_put.2 hkeeps, (place?_put_of_ne hne place).trans hplace⟩

theorem send (h : bus.Serves i unread) (a : α) : (bus.send a).1.Serves i (unread ++ [a]) := by
  have hpos := h.subscribers_pos
  obtain ⟨passed, hkeeps, hplace⟩ := h
  refine ⟨passed, ?_, ?_⟩
  · rw [← List.append_assoc]
    exact hkeeps.send hpos a
  · rw [place?, places_send]
    exact hplace

/-- A subscriber that asks gets what is next for it, and goes on by as much. -/
theorem receive (h : bus.Serves i unread) :
    (bus.receive i).2 = (take bus.capacity unread).2 ∧
      (bus.receive i).1.Serves i (take bus.capacity unread).1 := by
  have hserves := h
  obtain ⟨passed, hkeeps, hplace⟩ := h
  have hlt := lt_of_place? hplace
  rw [hkeeps.receive_eq hplace]
  by_cases hlagged : bus.capacity < unread.length
  · -- The place moves past the values that are no longer kept.
    rw [if_pos hlagged, take_of_lt hlagged]
    let lost := unread.take (unread.length - bus.capacity)
    let left := unread.drop (unread.length - bus.capacity)
    have hsplit : lost ++ left = unread := List.take_append_drop ..
    have hplace' : bus.sent - bus.capacity = (passed ++ lost).length := by
      rw [hkeeps.sent, List.length_append, List.length_append, List.length_take]
      omega
    refine ⟨rfl, passed ++ lost, ?_, ?_⟩
    · rw [List.append_assoc, hsplit]
      exact keeps_put.2 hkeeps
    · rw [← hplace']
      exact place?_put_self hlt _
  · rw [if_neg hlagged]
    cases unread with
    | nil => exact ⟨rfl, hserves⟩
    | cons a rest =>
      rw [take_cons (Nat.le_of_not_lt hlagged)]
      refine ⟨rfl, passed ++ [a], ?_, ?_⟩
      · rw [List.append_assoc, List.singleton_append]
        exact keeps_put.2 hkeeps
      · rw [List.length_append, List.length_singleton]
        exact place?_put_self hlt _

end Serves

/-! ## Asking, seen from elsewhere -/

/-- One that is not there gets nothing, and changes nothing. -/
theorem receive_of_gone {i : Nat} (h : bus.place? i = none) : bus.receive i = (bus, .gone) := by
  rw [receive, h]

/-- Asking moves nobody but the one that asks, and that one does not leave. -/
theorem exists_receive_eq_put (bus : Bus α) (i : Nat) :
    ∃ place, (bus.receive i).1 = bus.put i place ∧ place.isSome = (bus.place? i).isSome := by
  have hsame := (bus.put_self i).symm
  rw [receive]
  split
  · exact ⟨_, hsame, rfl⟩
  · rename_i hplace
    dsimp only
    split
    · exact ⟨_, rfl, by rw [hplace]; rfl⟩
    · split
      · exact ⟨_, hsame, rfl⟩
      · exact ⟨_, rfl, by rw [hplace]; rfl⟩

@[simp] theorem capacity_receive (bus : Bus α) (i : Nat) :
    (bus.receive i).1.capacity = bus.capacity := by
  obtain ⟨place, hput, -⟩ := bus.exists_receive_eq_put i
  rw [hput]
  rfl

theorem isSome_place?_put {i : Nat} {place : Option Nat}
    (hsame : place.isSome = (bus.place? i).isSome) (j : Nat) :
    ((bus.put i place).place? j).isSome = (bus.place? j).isSome := by
  by_cases hj : j = i
  · subst hj
    cases hplace : bus.place? j with
    | none =>
      rw [hplace] at hsame
      obtain rfl : place = none := Option.isNone_iff_eq_none.1 (by simpa using hsame)
      exact congrArg Option.isSome (bus.place?_leave_self j)
    | some k => rw [place?_put_self (lt_of_place? hplace), hsame, hplace]
  · rw [place?_put_of_ne hj]

theorem exists_drain_eq_put (bus : Bus α) (i fuel : Nat) :
    ∃ place, (bus.drain i fuel).1 = bus.put i place ∧ place.isSome = (bus.place? i).isSome := by
  induction fuel generalizing bus with
  | zero => exact ⟨_, (bus.put_self i).symm, rfl⟩
  | succ fuel ih =>
    obtain ⟨place, hput, hsame⟩ := bus.exists_receive_eq_put i
    rw [drain]
    split
    · rename_i hreceive
      exact ⟨place, by rw [← hput, hreceive], hsame⟩
    · rename_i hreceive
      exact ⟨place, by rw [← hput, hreceive], hsame⟩
    · rename_i bus' receipt _ _ hreceive
      obtain ⟨place', hput', hsame'⟩ := ih bus'
      have hbus : bus' = bus.put i place := by rw [← hput, hreceive]
      refine ⟨place', ?_, ?_⟩
      · rw [hput', hbus, put_put]
      · rw [hsame', hbus, isSome_place?_put hsame]

theorem exists_receiveAll_eq_put (bus : Bus α) (i : Nat) : ∃ place,
    (bus.receiveAll i).1 = bus.put i place ∧ place.isSome = (bus.place? i).isSome :=
  bus.exists_drain_eq_put i _

/-! ## Asking for all there is -/

namespace Serves

variable {i : Nat} {unread : List α}

/-- Where nothing is lost, a subscriber that asks until there is nothing new gets all values before
it, one after the other. -/
theorem drain (h : bus.Serves i unread) (hkept : unread.length ≤ bus.capacity) {fuel : Nat}
    (hfuel : unread.length < fuel) :
    (bus.drain i fuel).2 = unread.map .value ∧ (bus.drain i fuel).1.Serves i [] := by
  induction unread generalizing bus fuel with
  | nil =>
    cases fuel with
    | zero => exact absurd hfuel (Nat.lt_irrefl 0)
    | succ fuel =>
      obtain ⟨hreceipt, hserves⟩ := h.receive
      have hreceive : bus.receive i = ((bus.receive i).1, .empty) := Prod.ext rfl hreceipt
      rw [Bus.drain, hreceive]
      exact ⟨rfl, hserves⟩
  | cons a rest ih =>
    cases fuel with
    | zero => exact absurd hfuel (Nat.not_lt_zero _)
    | succ fuel =>
      obtain ⟨hreceipt, hserves⟩ := h.receive
      rw [take_cons hkept] at hreceipt hserves
      have hreceive : bus.receive i = ((bus.receive i).1, .value a) := Prod.ext rfl hreceipt
      have hkept' : rest.length ≤ (bus.receive i).1.capacity := by
        rw [capacity_receive]
        exact Nat.le_of_succ_le hkept
      obtain ⟨hreceipts, hserves'⟩ := ih hserves hkept' (Nat.lt_of_succ_lt_succ hfuel)
      rw [Bus.drain, hreceive]
      exact ⟨congrArg _ hreceipts, hserves'⟩

/-- A subscriber that asks for all there is gets the latest values before it, no more than the
capacity, and then has nothing before it. -/
theorem receiveAll (h : bus.Serves i unread) :
    Receipt.values (bus.receiveAll i).2 = unread.drop (unread.length - bus.capacity) ∧
      (bus.receiveAll i).1.Serves i [] := by
  rw [Bus.receiveAll]
  by_cases hlagged : bus.capacity < unread.length
  · -- First the loss is reported; then no more than the capacity is before the subscriber.
    obtain ⟨hreceipt, hserves⟩ := h.receive
    rw [take_of_lt hlagged] at hreceipt hserves
    have hreceive : bus.receive i =
        ((bus.receive i).1, .lagged (unread.length - bus.capacity)) := Prod.ext rfl hreceipt
    have hleft : (unread.drop (unread.length - bus.capacity)).length = bus.capacity := by
      rw [List.length_drop]
      omega
    have hkept : (unread.drop (unread.length - bus.capacity)).length ≤
        (bus.receive i).1.capacity :=
      Nat.le_of_eq (hleft.trans (capacity_receive bus i).symm)
    have hfuel : (unread.drop (unread.length - bus.capacity)).length < bus.capacity + 1 := by
      rw [hleft]
      exact Nat.lt_succ_self _
    obtain ⟨hreceipts, hserves'⟩ := hserves.drain hkept hfuel
    rw [Bus.drain, hreceive]
    exact ⟨(congrArg Receipt.values hreceipts).trans (Receipt.values_map _), hserves'⟩
  · have hkept : unread.length ≤ bus.capacity := Nat.le_of_not_lt hlagged
    have hfuel : unread.length < bus.capacity + 2 := by omega
    obtain ⟨hreceipts, hserves⟩ := h.drain hkept hfuel
    rw [hreceipts, Receipt.values_map, Nat.sub_eq_zero_of_le hkept, List.drop_zero]
    exact ⟨rfl, hserves⟩

end Serves

end Bus

end Jukebox
