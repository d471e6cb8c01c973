import Jukebox.Notice.Basic
import Jukebox.Widget.Basic

/-!
# Timetables

What a player left alone should do, on paper. Items are asked for one after the other, and looked
for once per period. An item starts at the first look after it was asked for and the one before it
has stopped, and stops when its duration has passed.

`timetable` is this recurrence. It can be cut anywhere (`timetable_append`): what follows depends on
what came before only through the time at which the last item stops. `announced` is what is to be
heard of a timetable, and when.
-/

namespace Jukebox

/-- Somebody asks for an identifier at a time. -/
structure Wish where
  asked : Nat
  identifier : String
  deriving Repr, DecidableEq

/-- An item of a timetable. -/
structure Item where
  identifier : String
  start : Nat
  duration : Nat
  deriving Repr, DecidableEq

namespace Item

/-- When the item stops. -/
def stop (item : Item) : Nat := item.start + item.duration

/-- The item is on at a time. -/
def On (time : Nat) (item : Item) : Prop := item.start ≤ time ∧ time < item.stop

instance (time : Nat) (item : Item) : Decidable (item.On time) :=
  inferInstanceAs (Decidable (_ ∧ _))

theorem start_le_stop (item : Item) : item.start ≤ item.stop :=
  Nat.le_add_right item.start item.duration

end Item

/-- The first look after a time, if there is one per period. -/
def nextLook (period time : Nat) : Nat := period * (time / period + 1)

/-- The item that is made of a wish if nothing else is on from a time on. -/
def Wish.item (period duration free : Nat) (wish : Wish) : Item where
  identifier := wish.identifier
  start := nextLook period (max wish.asked free)
  duration

/-- The items that are made of wishes, one at a time, if nothing else is on from a time on. -/
def timetable (period duration : Nat) : (free : Nat) → List Wish → List Item
  | _, [] => []
  | free, wish :: wishes =>
    let item := wish.item period duration free
    item :: timetable period duration item.stop wishes

/-- When the last of the items stops. -/
def freed (period duration : Nat) : (free : Nat) → List Wish → Nat
  | free, [] => free
  | free, wish :: wishes => freed period duration (wish.item period duration free).stop wishes

/-- What is to be heard of items, and when, if the first of them has a given session. -/
def announced : Session → List Item → List (Nat × Notice Session Nat)
  | _, [] => []
  | session, item :: items =>
    (item.start, .started session item.identifier) ::
      (item.stop, .ended session item.identifier) :: announced (session + 1) items

section

variable {period duration free time : Nat} {wishes more : List Wish}

/-! ## Looks, and the items that start at them -/

theorem lt_nextLook (h : 0 < period) (time : Nat) : time < nextLook period time := by
  rw [nextLook, Nat.mul_comm]
  exact Nat.lt_mul_of_div_lt (Nat.lt_succ_self _) h

/-- A look that is at most a period away is the next one. -/
theorem nextLook_eq {due : Nat} (hdvd : period ∣ due) (hlt : time < due)
    (hle : due ≤ time + period) : nextLook period time = due := by
  obtain ⟨count, rfl⟩ := hdvd
  cases count with
  | zero => simp at hlt
  | succ count =>
    -- the time lies in the period that ends at the look
    have hlower : count * period ≤ time := by
      rw [Nat.mul_succ] at hle
      rw [Nat.mul_comm]
      exact Nat.le_of_add_le_add_right hle
    rw [Nat.mul_comm] at hlt
    rw [nextLook, Nat.div_eq_of_lt_le hlower hlt]

theorem dvd_nextLook (period time : Nat) : period ∣ nextLook period time :=
  Nat.dvd_mul_right period _

/-- An item starts after the time from which nothing else is on. -/
theorem Wish.lt_start_item (h : 0 < period) (wish : Wish) :
    free < (wish.item period duration free).start :=
  Nat.lt_of_le_of_lt (Nat.le_max_right _ _) (lt_nextLook h _)

theorem Wish.le_stop_item (h : 0 < period) (wish : Wish) :
    free ≤ (wish.item period duration free).stop :=
  Nat.le_trans (Nat.le_of_lt (wish.lt_start_item h)) (Item.start_le_stop _)

/-! ## Cutting timetables -/

theorem timetable_append (free : Nat) (wishes more : List Wish) :
    timetable period duration free (wishes ++ more) =
      timetable period duration free wishes ++
        timetable period duration (freed period duration free wishes) more := by
  induction wishes generalizing free with
  | nil => rfl
  | cons wish wishes ih =>
    simp only [List.cons_append, timetable, freed]
    rw [ih]

theorem freed_append (free : Nat) (wishes more : List Wish) :
    freed period duration free (wishes ++ more) =
      freed period duration (freed period duration free wishes) more := by
  induction wishes generalizing free with
  | nil => rfl
  | cons wish wishes ih => exact ih _

theorem length_timetable (free : Nat) (wishes : List Wish) :
    (timetable period duration free wishes).length = wishes.length := by
  induction wishes generalizing free with
  | nil => rfl
  | cons wish wishes ih => rw [timetable, List.length_cons, ih, List.length_cons]

theorem map_identifier_timetable (free : Nat) (wishes : List Wish) :
    (timetable period duration free wishes).map Item.identifier =
      wishes.map Wish.identifier := by
  induction wishes generalizing free with
  | nil => rfl
  | cons wish wishes ih => rw [timetable, List.map_cons, ih, List.map_cons, Wish.item]

/-- All items start after that time. -/
theorem lt_start_of_mem (h : 0 < period) (hfree : time ≤ free) {item : Item}
    (hmem : item ∈ timetable period duration free wishes) : time < item.start := by
  induction wishes generalizing free with
  | nil => simp [timetable] at hmem
  | cons wish wishes ih =>
    rcases List.mem_cons.1 hmem with rfl | hmem
    · exact Nat.lt_of_le_of_lt hfree (wish.lt_start_item h)
    · exact ih (Nat.le_trans hfree (wish.le_stop_item h)) hmem

/-- If the first item starts after a time, all of them do. -/
theorem lt_start_of_head (h : 0 < period)
    (hhead : ∀ wish ∈ wishes.head?, time < (wish.item period duration free).start) {item : Item}
    (hmem : item ∈ timetable period duration free wishes) : time < item.start := by
  cases wishes with
  | nil => simp [timetable] at hmem
  | cons wish wishes =>
    have hstart := hhead wish rfl
    rcases List.mem_cons.1 hmem with rfl | hmem
    · exact hstart
    · exact lt_start_of_mem h (Nat.le_trans (Nat.le_of_lt hstart) (Item.start_le_stop _)) hmem

theorem le_freed (h : 0 < period) (free : Nat) (wishes : List Wish) :
    free ≤ freed period duration free wishes := by
  induction wishes generalizing free with
  | nil => exact Nat.le_refl free
  | cons wish wishes ih => exact Nat.le_trans (wish.le_stop_item h) (ih _)

/-- Items have stopped when the last one has. -/
theorem stop_le_freed (h : 0 < period) {item : Item}
    (hmem : item ∈ timetable period duration free wishes) :
    item.stop ≤ freed period duration free wishes := by
  induction wishes generalizing free with
  | nil => simp [timetable] at hmem
  | cons wish wishes ih =>
    rcases List.mem_cons.1 hmem with rfl | hmem
    · exact le_freed h _ wishes
    · exact ih hmem

end

/-! ## What is to be heard -/

theorem announced_append (session : Session) (items more : List Item) :
    announced session (items ++ more) =
      announced session items ++ announced (session + items.length) more := by
  induction items generalizing session with
  | nil => rfl
  | cons item items ih =>
    simp only [List.cons_append, announced, List.length_cons]
    rw [ih, Nat.add_assoc, Nat.add_comm 1]

/-- Of items that have stopped everything has been heard. -/
theorem filter_announced_of_stopped {time : Nat} (session : Session) {items : List Item}
    (h : ∀ item ∈ items, item.stop ≤ time) :
    (announced session items).filter (·.1 ≤ time) = announced session items := by
  induction items generalizing session with
  | nil => rfl
  | cons item items ih =>
    have hstop := h item List.mem_cons_self
    have hstart := Nat.le_trans item.start_le_stop hstop
    simp [announced, hstart, hstop, ih (session + 1) fun item hmem =>
      h item (List.mem_cons_of_mem _ hmem)]

/-- Of items that have not started nothing has been heard. -/
theorem filter_announced_of_ahead {time : Nat} (session : Session) {items : List Item}
    (h : ∀ item ∈ items, time < item.start) :
    (announced session items).filter (·.1 ≤ time) = [] := by
  induction items generalizing session with
  | nil => rfl
  | cons item items ih =>
    have hstart := h item List.mem_cons_self
    have hstop := Nat.lt_of_lt_of_le hstart item.start_le_stop
    simp [announced, hstart, hstop, ih (session + 1) fun item hmem =>
      h item (List.mem_cons_of_mem _ hmem)]

/-! ## What is on -/

/-- At a time some items have stopped, one may be on, and the others have not started. -/
structure Parted (time : Nat) (items finished : List Item) (current : Option Item)
    (ahead : List Item) : Prop where
  split : items = finished ++ (current.toList ++ ahead)
  finished : ∀ item ∈ finished, item.stop ≤ time
  on : ∀ item ∈ current, item.On time
  ahead : ∀ item ∈ ahead, time < item.start

namespace Parted

variable {time : Nat} {items finished ahead : List Item} {current : Option Item}

/-- What has been heard: everything of the items that have stopped, and the start of the current
one. -/
theorem filter_announced (h : Parted time items finished current ahead) (session : Session) :
    (announced session items).filter (·.1 ≤ time) = announced session finished ++
      (current.map fun item =>
        (item.start, .started (session + finished.length) item.identifier)).toList := by
  rw [h.split, announced_append, announced_append, List.filter_append, List.filter_append,
    filter_announced_of_stopped session h.finished, filter_announced_of_ahead _ h.ahead,
    List.append_nil]
  cases current with
  | none => rfl
  | some item =>
    obtain ⟨hstart, hstop⟩ := h.on item rfl
    simp [announced, hstart, hstop]

/-- The item that is on is the current one. -/
theorem on_iff (h : Parted time items finished current ahead) (holds : Nat → Item → Prop) :
    (∃ k item, items[k]? = some item ∧ item.On time ∧ holds k item) ↔
      ∃ item, current = some item ∧ holds finished.length item := by
  constructor
  · rintro ⟨k, item, hitem, ⟨hstart, hstop⟩, hholds⟩
    -- an item that is on is neither finished nor ahead
    have hfinished : item ∉ finished := fun hmem => Nat.not_le.2 hstop (h.finished item hmem)
    have hahead : item ∉ ahead := fun hmem => Nat.not_le.2 (h.ahead item hmem) hstart
    rw [h.split, List.getElem?_append] at hitem
    split at hitem
    · exact absurd (List.mem_of_getElem? hitem) hfinished
    · rename_i hfrom
      cases current with
      | none => exact absurd (List.mem_of_getElem? hitem) hahead
      | some first =>
        cases hk : k - finished.length with
        | zero =>
          have heq : k = finished.length := by omega
          rw [hk] at hitem
          obtain rfl : first = item := Option.some.inj hitem
          exact ⟨first, rfl, heq ▸ hholds⟩
        | succ later =>
          rw [hk] at hitem
          exact absurd (List.mem_of_getElem? (l := ahead) hitem) hahead
  · rintro ⟨item, rfl, hholds⟩
    refine ⟨finished.length, item, ?_, h.on item rfl, hholds⟩
    rw [h.split]
    simp

/-- The items that have not started are those ahead. -/
theorem filter_lt_start (h : Parted time items finished current ahead) :
    items.filter (fun item => time < item.start) = ahead := by
  have hfinished : finished.filter (fun item => time < item.start) = [] := by
    refine List.filter_eq_nil_iff.2 fun item hmem => ?_
    simpa using Nat.le_trans item.start_le_stop (h.finished item hmem)
  have hcurrent : current.toList.filter (fun item => time < item.start) = [] := by
    refine List.filter_eq_nil_iff.2 fun item hmem => ?_
    simpa using (h.on item (Option.mem_toList.1 hmem)).1
  have hahead : ahead.filter (fun item => time < item.start) = ahead :=
    List.filter_eq_self.2 fun item hmem => by simpa using h.ahead item hmem
  rw [h.split, List.filter_append, List.filter_append, hfinished, hcurrent, hahead, List.nil_append,
    List.nil_append]

end Parted

end Jukebox
