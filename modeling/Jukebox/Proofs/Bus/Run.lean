import Jukebox.Proofs.Bus.Places
import Mathlib.Data.List.Basic

/-!
# Runs of the bus

Subscribers come and go, values are sent and subscribers ask, in any order (`Op`). What the bus
answers is tied to the operations alone:

* those that are there are those that came and have not left (`Roster`), and a sender is told how
  many they are (`InOrder.send`);
* a subscriber gets what a mailbox gets that is told of the values sent since it came and of its own
  asking, so nothing that others do, and nothing from before it came, makes a difference to it
  (`InOrder.since_subscribing`).

Both rest on what one operation keeps: the bus is in order (`InOrder.apply`), and a subscriber that
stays has the same values before it as its mailbox (`Serves.apply`).
-/

namespace Jukebox.Bus

variable {α : Type}

/-- What is done with a bus. -/
inductive Op (α : Type)
  | subscribe
  | leave (subscriber : Nat)
  | emit (a : α)
  | emitLossy (a : α)
  | receive (subscriber : Nat)
  deriving DecidableEq

/-- What the bus answers. -/
inductive Answer (α : Type)
  /-- The number of a new subscriber. -/
  | came (subscriber : Nat)
  /-- To how many a value was sent, or the value itself if to none. -/
  | sent (outcome : Except α Nat)
  /-- What a subscriber gets. -/
  | got (subscriber : Nat) (receipt : Receipt α)
  | done

namespace Op

/-- What an operation does. -/
def apply (bus : Bus α) : Op α → Bus α × Answer α
  | subscribe =>
    let (bus, subscriber) := bus.subscribe
    (bus, .came subscriber)
  | leave subscriber => (bus.leave subscriber, .done)
  | emit a =>
    let (bus, outcome) := bus.send a
    (bus, .sent outcome)
  | emitLossy a => (bus.emitLossy a, .done)
  | receive subscriber =>
    let (bus, receipt) := bus.receive subscriber
    (bus, .got subscriber receipt)

/-- The value of an operation that sends one. -/
def value? : Op α → Option α
  | emit a | emitLossy a => some a
  | _ => none

/-- What an operation is to one subscriber. -/
def sight? (i : Nat) : Op α → Option (Sight α)
  | emit a | emitLossy a => some (.offered a)
  | receive j => if j = i then some .asked else none
  | _ => none

end Op

/-- What a subscriber got with an answer. -/
def Answer.receipt? (i : Nat) : Answer α → Option (Receipt α)
  | got j receipt => if j = i then some receipt else none
  | _ => none

/-- One operation after the other. -/
def run (bus : Bus α) : List (Op α) → Bus α × List (Answer α)
  | [] => (bus, [])
  | op :: ops =>
    let (bus, answer) := op.apply bus
    let (bus, answers) := bus.run ops
    (bus, answer :: answers)

/-! ## Those that are there -/

/-- How many subscribers came, and those of them that are there. -/
structure Roster where
  came : Nat := 0
  present : List Nat := []
  deriving DecidableEq

namespace Roster

/-- Who is there after an operation. -/
def next (r : Roster) : Op α → Roster
  | .subscribe => { came := r.came + 1, present := r.present ++ [r.came] }
  | .leave i => { r with present := r.present.filter (· ≠ i) }
  | _ => r

/-- Who is there after all these operations. -/
def after (ops : List (Op α)) : Roster :=
  ops.foldl next {}

end Roster

/-- What holds of a bus at any time: it keeps the latest of all values ever sent, and those that
are there have a place. -/
structure InOrder (capacity : Nat) (r : Roster) (bus : Bus α) : Prop where
  capacity_eq : bus.capacity = capacity
  keeps : ∃ row, bus.Keeps row
  came : bus.places.length = r.came
  present : r.present = (List.range bus.places.length).filter fun i => (bus.place? i).isSome

theorem length_filter_isSome {β : Type} (places : List (Option β)) :
    (places.filter Option.isSome).length =
      ((List.range places.length).filter fun i => (places[i]?).join.isSome).length := by
  induction places using List.reverseRecOn with
  | nil => rfl
  | append_singleton places place ih =>
    have hfront : (List.range places.length).filter
          (fun i => ((places ++ [place])[i]?).join.isSome) =
        (List.range places.length).filter fun i => (places[i]?).join.isSome := by
      refine List.filter_congr fun i hi => ?_
      rw [List.getElem?_append_left (List.mem_range.1 hi)]
    rw [List.filter_append, List.length_append, ih, List.length_append, List.length_singleton,
      List.range_succ, List.filter_append, List.length_append, hfront]
    cases place <;> simp

theorem ofCapacity?_eq_some {size : Nat} {bus : Bus α} (h : ofCapacity? size = some bus) :
    0 < size ∧ bus = { capacity := roundUp size } := by
  rw [ofCapacity?] at h
  split at h
  · cases h
  · exact ⟨by omega, (Option.some.inj h).symm⟩

theorem exists_roundUp_eq_pow (size : Nat) : ∃ k, roundUp size = 2 ^ k := by
  rw [roundUp]
  split
  · exact ⟨0, rfl⟩
  · exact ⟨(size - 1).log2 + 1, rfl⟩

/-- The capacity is the least power of two that is not below the size asked for. -/
theorem capacity_of_ofCapacity? {size : Nat} {bus : Bus α} (h : ofCapacity? size = some bus) :
    (∃ n, bus.capacity = 2 ^ n) ∧ size ≤ bus.capacity ∧ bus.capacity < 2 * size := by
  obtain ⟨hpos, rfl⟩ := ofCapacity?_eq_some h
  exact ⟨exists_roundUp_eq_pow size, le_roundUp size, roundUp_lt hpos⟩

namespace InOrder

variable {capacity : Nat} {r : Roster} {bus : Bus α}

/-- A new bus is in order, and nobody is there. -/
theorem ofCapacity? {size : Nat} (h : ofCapacity? size = some bus) :
    InOrder bus.capacity {} bus := by
  obtain ⟨-, rfl⟩ := ofCapacity?_eq_some h
  exact ⟨rfl, ⟨[], rfl, List.drop_nil.symm⟩, rfl, rfl⟩

theorem subscribers_eq (h : InOrder capacity r bus) : bus.subscribers = r.present.length := by
  rw [h.present]
  exact length_filter_isSome bus.places

theorem mem_present (h : InOrder capacity r bus) {i : Nat} :
    i ∈ r.present ↔ (bus.place? i).isSome = true := by
  rw [h.present, List.mem_filter, List.mem_range]
  refine ⟨And.right, fun hsome => ⟨?_, hsome⟩⟩
  obtain ⟨place, hplace⟩ := Option.isSome_iff_exists.1 hsome
  exact lt_of_place? hplace

/-- The sender is told how many are there, if somebody is. -/
theorem send_of_ne_nil (h : InOrder capacity r bus) (hsomebody : r.present ≠ []) (a : α) :
    (bus.send a).2 = .ok r.present.length := by
  have hpos : 0 < bus.subscribers := by
    rw [h.subscribers_eq]
    exact List.length_pos_iff.2 hsomebody
  rw [send_of_pos hpos, h.subscribers_eq]

/-- Where nobody is, the value is given back and nothing changes. -/
theorem send_of_eq_nil (h : InOrder capacity r bus) (hnobody : r.present = []) (a : α) :
    bus.send a = (bus, .error a) :=
  send_of_eq_zero (h.subscribers_eq.trans (congrArg List.length hnobody)) a

theorem receive_of_notMem (h : InOrder capacity r bus) {i : Nat} (hi : i ∉ r.present) :
    bus.receive i = (bus, .gone) := by
  rw [h.mem_present, Option.not_isSome_iff_eq_none] at hi
  exact receive_of_gone hi

theorem subscribe (h : InOrder capacity r bus) :
    InOrder capacity (r.next (Op.subscribe : Op α)) bus.subscribe.1 := by
  obtain ⟨hcapacity, ⟨row, hkeeps⟩, hcame, hpresent⟩ := h
  have hlength : bus.subscribe.1.places.length = bus.places.length + 1 := List.length_append
  refine ⟨hcapacity, ⟨row, hkeeps.sent, hkeeps.kept⟩, ?_, ?_⟩
  · rw [hlength, hcame]
    rfl
  · have hothers : (List.range bus.places.length).filter
          (fun i => (bus.subscribe.1.place? i).isSome) = r.present := by
      rw [hpresent]
      refine List.filter_congr fun i hi => ?_
      rw [place?_subscribe, if_neg (Nat.ne_of_lt (List.mem_range.1 hi))]
    have hnew : [bus.places.length].filter (fun i => (bus.subscribe.1.place? i).isSome) =
        [bus.places.length] := by
      rw [List.filter_cons, place?_subscribe, if_pos rfl]
      rfl
    rw [hlength, List.range_succ, List.filter_append, hothers, hnew, hcame]
    rfl

theorem leave (h : InOrder capacity r bus) (i : Nat) :
    InOrder capacity (r.next (.leave i : Op α)) (bus.leave i) := by
  obtain ⟨hcapacity, ⟨row, hkeeps⟩, hcame, hpresent⟩ := h
  have hlength : (bus.leave i).places.length = bus.places.length := List.length_set
  refine ⟨hcapacity, ⟨row, hkeeps.sent, hkeeps.kept⟩, hlength.trans hcame, ?_⟩
  calc r.present.filter (· ≠ i)
    _ = (List.range bus.places.length).filter
          fun j => decide (j ≠ i) && (bus.place? j).isSome := by rw [hpresent, List.filter_filter]
    _ = (List.range (bus.leave i).places.length).filter
          fun j => ((bus.leave i).place? j).isSome := by
      rw [hlength]
      refine List.filter_congr fun j _ => ?_
      by_cases hj : j = i
      · subst hj
        rw [place?_leave_self]
        simp
      · have hother : (bus.leave i).place? j = bus.place? j := place?_put_of_ne hj none
        simp [hother, hj]

theorem put (h : InOrder capacity r bus) {i : Nat} {place : Option Nat}
    (hsame : place.isSome = (bus.place? i).isSome) : InOrder capacity r (bus.put i place) := by
  obtain ⟨hcapacity, ⟨row, hkeeps⟩, hcame, hpresent⟩ := h
  have hlength : (bus.put i place).places.length = bus.places.length := List.length_set
  refine ⟨hcapacity, ⟨row, keeps_put.2 hkeeps⟩, hlength.trans hcame, ?_⟩
  rw [hpresent, hlength]
  exact List.filter_congr fun j _ => (isSome_place?_put hsame j).symm

theorem after_send (h : InOrder capacity r bus) (a : α) : InOrder capacity r (bus.send a).1 := by
  rcases Nat.eq_zero_or_pos bus.subscribers with hzero | hpos
  · rw [send_of_eq_zero hzero]
    exact h
  · obtain ⟨hcapacity, ⟨row, hkeeps⟩, hcame, hpresent⟩ := h
    refine ⟨(capacity_send bus a).trans hcapacity, ⟨row ++ [a], hkeeps.send hpos a⟩, ?_, ?_⟩
    · rw [places_send]
      exact hcame
    · simpa [place?] using hpresent

theorem apply (h : InOrder capacity r bus) (op : Op α) :
    InOrder capacity (r.next op) (op.apply bus).1 := by
  cases op with
  | subscribe => exact h.subscribe
  | leave i => exact h.leave i
  | emit a => exact h.after_send a
  | emitLossy a => exact h.after_send a
  | receive i =>
    obtain ⟨place, hput, hsame⟩ := bus.exists_receive_eq_put i
    have hreceive : ((Op.receive i).apply bus).1 = bus.put i place := hput
    rw [hreceive]
    exact h.put hsame

theorem run (h : InOrder capacity r bus) (ops : List (Op α)) :
    InOrder capacity (ops.foldl Roster.next r) (bus.run ops).1 := by
  induction ops generalizing r bus with
  | nil => exact h
  | cons op ops ih => exact ih (h.apply op)

end InOrder

/-! ## What one subscriber gets -/

/-- A value sent is offered to every subscriber, whoever it is. -/
theorem filterMap_sight? (i : Nat) (ops : List (Op α)) :
    (ops.filterMap (Op.sight? i)).filterMap Sight.value? = ops.filterMap Op.value? := by
  rw [List.filterMap_filterMap]
  refine List.filterMap_congr fun op _ => ?_
  cases op with
  | receive j =>
    rw [Op.sight?]
    split <;> rfl
  | _ => rfl

namespace Serves

variable {bus : Bus α} {i : Nat} {m : Mailbox α}

/-- One operation is to a subscriber, as long as it stays, what it is to a mailbox. -/
theorem apply (h : bus.Serves i m.unread) {op : Op α} (hstays : op ≠ .leave i) :
    let m' := m.follow bus.capacity ([op].filterMap (Op.sight? i))
    (op.apply bus).1.capacity = bus.capacity ∧ (op.apply bus).1.Serves i m'.unread ∧
      m'.receipts = m.receipts ++ [(op.apply bus).2].filterMap (Answer.receipt? i) := by
  cases op with
  | subscribe => exact ⟨rfl, h.subscribe_other, (List.append_nil _).symm⟩
  | leave j =>
    have hne : i ≠ j := fun heq => hstays (heq ▸ rfl)
    exact ⟨rfl, h.put hne none, (List.append_nil _).symm⟩
  | emit a => exact ⟨capacity_send bus a, h.send a, (List.append_nil _).symm⟩
  | emitLossy a => exact ⟨capacity_send bus a, h.send a, (List.append_nil _).symm⟩
  | receive j =>
    refine ⟨capacity_receive bus j, ?_⟩
    by_cases hj : j = i
    · subst hj
      have hsight : [Op.receive j].filterMap (Op.sight? (α := α) j) = [.asked] := by
        simp [Op.sight?]
      have hgot : [((Op.receive j).apply bus).2].filterMap (Answer.receipt? j) =
          [(bus.receive j).2] := by simp [Op.apply, Answer.receipt?]
      rw [hsight, hgot, h.receive.1]
      exact ⟨h.receive.2, rfl⟩
    · -- Somebody else asks: the mailbox is told nothing, and the place that moves is another one.
      have hsight : [Op.receive j].filterMap (Op.sight? (α := α) i) = [] := by
        simp [Op.sight?, hj]
      have hgot : [((Op.receive j).apply bus).2].filterMap (Answer.receipt? i) = [] := by
        simp [Op.apply, Answer.receipt?, hj]
      obtain ⟨place, hput, -⟩ := bus.exists_receive_eq_put j
      have hreceive : ((Op.receive j).apply bus).1 = bus.put j place := hput
      rw [hsight, hgot, hreceive, List.append_nil]
      exact ⟨h.put (Ne.symm hj) place, rfl⟩

/-- What a subscriber gets, as long as it stays, is what a mailbox gets that is told of the values
sent and of its asking. -/
theorem run (h : bus.Serves i m.unread) {ops : List (Op α)} (hstays : .leave i ∉ ops) :
    let m' := m.follow bus.capacity (ops.filterMap (Op.sight? i))
    (bus.run ops).1.Serves i m'.unread ∧
      m'.receipts = m.receipts ++ (bus.run ops).2.filterMap (Answer.receipt? i) := by
  induction ops generalizing bus m with
  | nil => exact ⟨h, (List.append_nil _).symm⟩
  | cons op ops ih =>
    rw [List.mem_cons, not_or] at hstays
    obtain ⟨hcapacity, hserves, hreceipts⟩ := h.apply (Ne.symm hstays.1)
    have hwhole := ih hserves hstays.2
    rw [hcapacity, hreceipts] at hwhole
    have hsights : (op :: ops).filterMap (Op.sight? i) =
        [op].filterMap (Op.sight? i) ++ ops.filterMap (Op.sight? i) :=
      List.filterMap_append (l := [op])
    have hanswers : (bus.run (op :: ops)).2.filterMap (Answer.receipt? i) =
        [(op.apply bus).2].filterMap (Answer.receipt? i) ++
          ((op.apply bus).1.run ops).2.filterMap (Answer.receipt? i) :=
      List.filterMap_append (l := [(op.apply bus).2])
    dsimp only
    rw [hsights, hanswers, Mailbox.follow_append, ← List.append_assoc]
    exact hwhole

end Serves

/-- A subscriber that has come and stayed got what a new mailbox gets that is told of what happened
since. The values it received, lost and still has before it are all that were sent since it came;
what it gets next is the first of those before it, or how many of them are too many. -/
theorem InOrder.since_subscribing {capacity : Nat} {r : Roster} {bus : Bus α}
    (h : InOrder capacity r bus) {ops : List (Op α)} (hstays : .leave bus.subscribe.2 ∉ ops) :
    let i := bus.subscribe.2
    let later := bus.subscribe.1.run ops
    let sent := ops.filterMap Op.value?
    let receipts := later.2.filterMap (Answer.receipt? i)
    receipts = (Mailbox.after capacity (ops.filterMap (Op.sight? i))).receipts ∧
      (Receipt.values receipts).Sublist sent ∧
      (Receipt.values receipts).length + Receipt.allLost receipts + later.1.backlog i =
        sent.length ∧
      ∃ passed unread, sent = passed ++ unread ∧ Receipt.Accounts passed receipts ∧
        later.1.backlog i = unread.length ∧
        (later.1.receive i).2 =
          if capacity < unread.length then .lagged (unread.length - capacity)
          else unread.head?.elim .empty .value := by
  intro i later sent receipts
  obtain ⟨row, hkeeps⟩ := h.keeps
  have hstart : bus.subscribe.1.capacity = capacity := h.subscribe.capacity_eq
  have hcapacity : later.1.capacity = capacity := (h.subscribe.run ops).capacity_eq
  let m := Mailbox.after capacity (ops.filterMap (Op.sight? i))
  have hfollows : later.1.Serves i m.unread ∧ m.receipts = receipts := by
    have hrun := Serves.run (m := {}) (Serves.subscribe hkeeps) hstays
    rwa [hstart] at hrun
  obtain ⟨hserves, hreceipts⟩ := hfollows
  obtain ⟨passed, hsplit, hpassed⟩ :=
    Mailbox.exists_accounts capacity (ops.filterMap (Op.sight? i))
  have hsent : sent = passed ++ m.unread := (filterMap_sight? i ops).symm.trans hsplit
  have haccounts : Receipt.Accounts passed receipts := hreceipts ▸ hpassed
  have hbacklog : later.1.backlog i = m.unread.length := hserves.backlog_eq
  have hnext := hserves.receive.1
  rw [hcapacity, take_snd] at hnext
  refine ⟨hreceipts.symm, ?_, ?_, passed, m.unread, hsent, haccounts, hbacklog, hnext⟩
  · rw [hsent]
    exact haccounts.values_sublist.trans (List.sublist_append_left passed m.unread)
  · rw [haccounts.length_eq, hbacklog, hsent, List.length_append]

end Jukebox.Bus
