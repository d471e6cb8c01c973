import Jukebox.Proofs.Bus.Run
import Jukebox.Proofs.Sse.Stream
import Jukebox.Status.Api

/-!
# Streams of the status API

Every open stream is a subscriber of the bus, and no two are the same one (`Tended`). What is before
that subscriber are the events sent since the stream was opened or last read (`Awaits`), since
reading takes all there is: the latest events, no more than the capacity, the oldest first, and
whatever else was before it is lost without a word. All requests, readings and closings of other
streams leave this as it is (`Awaits.apply`). A stream that was closed is no subscriber any more,
and stays closed (`Shut`).

`delivery_accounted` puts this together with what is known of the bus.
-/

namespace Jukebox.StatusServer

open StatusApi

/-- What is done with the status API. -/
inductive Op
  | openStream (path : String)
  | emit (e : Event)
  | read (stream : Nat)
  | close (stream : Nat)
  | elapse (ms : Nat)
  /-- There is a new status. -/
  | report (status : Status NowPlaying)

/-- What an operation does. -/
def Op.apply (s : StatusServer) : Op → StatusServer
  | openStream path => (s.openStream path).1
  | emit e => (s.emit e).1
  | read stream => (s.read stream).1
  | close stream => (s.close stream).1
  | elapse ms => s.elapse ms
  | report status => { s with status }

/-- One operation after the other. -/
def run (s : StatusServer) (ops : List Op) : StatusServer :=
  ops.foldl Op.apply s

/-- The events not yet read from a stream, after an operation. -/
def Op.unread (stream : Nat) (events : List Event) : Op → List Event
  | emit e => events ++ [e]
  | read k => if k = stream then [] else events
  | _ => events

/-- The events sent since a stream was last read, or all if it was not. -/
def sinceRead (stream : Nat) (ops : List Op) : List Event :=
  ops.foldl (Op.unread stream) []

/-! ## Streams and subscribers -/

/-- The subscriber that a stream is, while it is open. -/
def client? (s : StatusServer) (stream : Nat) : Option Nat :=
  (s.feeds[stream]?).join.map Sse.Feed.subscriber

variable {s : StatusServer} {stream : Nat}

theorem client?_eq_some {i : Nat} :
    s.client? stream = some i ↔
      ∃ feed, (s.feeds[stream]?).join = some feed ∧ feed.subscriber = i :=
  Option.map_eq_some_iff

theorem client?_eq_none : s.client? stream = none ↔ (s.feeds[stream]?).join = none :=
  Option.map_eq_none_iff

theorem lt_of_client? {i : Nat} (h : s.client? stream = some i) : stream < s.feeds.length := by
  obtain ⟨feed, hfeed, -⟩ := client?_eq_some.1 h
  exact lt_of_join_getElem? hfeed

theorem client?_openStream (s : StatusServer) (path : String) (k : Nat) :
    (s.openStream path).1.client? k =
      if k = s.feeds.length ∧ Route.ofPath? path = some .events then some s.bus.places.length
      else s.client? k := by
  rw [openStream]
  by_cases hroute : Route.ofPath? path = some .events
  · rw [if_pos hroute, client?, join_getElem?_concat]
    by_cases hk : k = s.feeds.length
    · rw [if_pos hk, if_pos ⟨hk, hroute⟩]
      rfl
    · rw [if_neg hk, if_neg fun h => hk h.1]
      rfl
  · rw [if_neg hroute, if_neg fun h => hroute h.2, client?, join_getElem?_concat]
    split
    · rename_i hk
      rw [client?, hk, List.getElem?_eq_none (Nat.le_refl _)]
      rfl
    · rfl

theorem bus_openStream (s : StatusServer) (path : String) : (s.openStream path).1.bus =
    if Route.ofPath? path = some .events then s.bus.subscribe.1 else s.bus := by
  rw [openStream]
  split <;> rfl

theorem read_of_open {feed : Sse.Feed} (h : (s.feeds[stream]?).join = some feed) :
    s.read stream =
      ({ s with
          bus := (feed.read s.bus s.now).1
          feeds := s.feeds.set stream (some (feed.read s.bus s.now).2.1) },
        (feed.read s.bus s.now).2.2) := by
  rw [read, h]

theorem client?_read (s : StatusServer) (stream k : Nat) :
    (s.read stream).1.client? k = s.client? k := by
  cases hfeed : (s.feeds[stream]?).join with
  | none => rw [read, hfeed]
  | some feed =>
    rw [read_of_open hfeed, client?, client?]
    by_cases hk : k = stream
    · rw [hk, join_getElem?_set_self (lt_of_join_getElem? hfeed), hfeed]
      exact congrArg some (Sse.Feed.subscriber_read ..)
    · rw [join_getElem?_set_ne s.feeds hk]

/-- Reading an open stream is asking for all there is for its subscriber; nobody else moves. -/
theorem bus_read {i : Nat} (h : s.client? stream = some i) :
    (s.read stream).1.bus = (s.bus.receiveAll i).1 := by
  obtain ⟨feed, hfeed, rfl⟩ := client?_eq_some.1 h
  rw [read_of_open hfeed]
  exact Sse.Feed.bus_read ..

theorem read_of_closed (h : s.client? stream = none) : s.read stream = (s, []) := by
  rw [read, client?_eq_none.1 h]

theorem close_of_open {i : Nat} (h : s.client? stream = some i) :
    (s.close stream).1 =
      { s with bus := s.bus.leave i, feeds := s.feeds.set stream none } := by
  obtain ⟨feed, hfeed, rfl⟩ := client?_eq_some.1 h
  rw [close, hfeed]

theorem close_of_closed (h : s.client? stream = none) : (s.close stream).1 = s := by
  rw [close, client?_eq_none.1 h]

theorem client?_close (s : StatusServer) (stream k : Nat) :
    (s.close stream).1.client? k = if k = stream then none else s.client? k := by
  cases hclient : s.client? stream with
  | none =>
    rw [close_of_closed hclient]
    split
    · rename_i hk
      rw [hk, hclient]
    · rfl
  | some i =>
    rw [close_of_open hclient, client?]
    split
    · rename_i hk
      rw [hk, join_getElem?_set_none]
      rfl
    · rename_i hk
      rw [join_getElem?_set_ne s.feeds hk, client?]

theorem close_snd (s : StatusServer) (stream : Nat) :
    (s.close stream).2 = (s.close stream).1.bus.subscribers := by
  rw [close]
  split <;> rfl

/-! ## Closed streams -/

/-- Streams are only opened, never forgotten. -/
theorem length_feeds_apply (s : StatusServer) (op : Op) :
    s.feeds.length ≤ (op.apply s).feeds.length := by
  cases op with
  | openStream path =>
    rw [Op.apply, openStream]
    split
    · exact (List.prefix_append ..).length_le
    · exact (List.prefix_append ..).length_le
  | read k =>
    rw [Op.apply, read]
    split
    · exact Nat.le_refl _
    · exact Nat.le_of_eq List.length_set.symm
  | close k =>
    rw [Op.apply, close]
    split
    · exact Nat.le_refl _
    · exact Nat.le_of_eq List.length_set.symm
  | emit e => exact Nat.le_refl _
  | elapse ms => exact Nat.le_refl _
  | report status => exact Nat.le_refl _

/-- The stream was opened, and is not open any more. -/
structure Shut (s : StatusServer) (stream : Nat) : Prop where
  opened : stream < s.feeds.length
  closed : s.client? stream = none

namespace Shut

/-- What is opened later is another stream, so a closed one stays closed. -/
theorem apply (h : s.Shut stream) (op : Op) : (op.apply s).Shut stream := by
  refine ⟨Nat.lt_of_lt_of_le h.opened (length_feeds_apply s op), ?_⟩
  cases op with
  | openStream path =>
    rw [Op.apply, client?_openStream, if_neg fun hnew => Nat.ne_of_lt h.opened hnew.1]
    exact h.closed
  | read k => exact (client?_read s k stream).trans h.closed
  | close k => rw [Op.apply, client?_close, h.closed, ite_self]
  | emit e => exact h.closed
  | elapse ms => exact h.closed
  | report status => exact h.closed

theorem run (h : s.Shut stream) (ops : List Op) : (s.run ops).Shut stream := by
  induction ops generalizing s with
  | nil => exact h
  | cons op ops ih => exact ih (h.apply op)

end Shut

/-! ## Every stream has a subscriber of its own -/

/-- The bus is in order, and every open stream is a subscriber that no other stream is. -/
structure Tended (capacity : Nat) (s : StatusServer) : Prop where
  order : ∃ r, Bus.InOrder capacity r s.bus
  known : ∀ {k i : Nat}, s.client? k = some i → i < s.bus.places.length
  apart : ∀ {j k i : Nat}, s.client? j = some i → s.client? k = some i → j = k

namespace Tended

variable {capacity : Nat}

/-- No stream is opened, and the bus stays in order. -/
theorem of_clients {s' : StatusServer} (h : Tended capacity s)
    (horder : ∃ r, Bus.InOrder capacity r s'.bus)
    (hlength : s.bus.places.length ≤ s'.bus.places.length)
    (hclients : ∀ {k i : Nat}, s'.client? k = some i → s.client? k = some i) :
    Tended capacity s' where
  order := horder
  known hk := Nat.lt_of_lt_of_le (h.known (hclients hk)) hlength
  apart hj hk := h.apart (hclients hj) (hclients hk)

theorem openStream_of_events (h : Tended capacity s) {path : String}
    (hroute : Route.ofPath? path = some .events) : Tended capacity (s.openStream path).1 := by
  obtain ⟨r, horder⟩ := h.order
  have hbus : (s.openStream path).1.bus = s.bus.subscribe.1 := by
    rw [bus_openStream, if_pos hroute]
  have hlength : (s.openStream path).1.bus.places.length = s.bus.places.length + 1 := by
    rw [hbus]
    exact List.length_append
  -- Only the new stream is the new subscriber, whose number is above all others.
  have hclients : ∀ {k i : Nat}, (s.openStream path).1.client? k = some i →
      k = s.feeds.length ∧ i = s.bus.places.length ∨
        s.client? k = some i ∧ i < s.bus.places.length := by
    intro k i hk
    rw [client?_openStream] at hk
    split at hk
    · rename_i hnew
      exact .inl ⟨hnew.1, (Option.some.inj hk).symm⟩
    · exact .inr ⟨hk, h.known hk⟩
  refine ⟨⟨_, hbus ▸ horder.subscribe⟩, fun hk => ?_, fun hj hk => ?_⟩
  · rw [hlength]
    rcases hclients hk with ⟨-, rfl⟩ | ⟨-, hlt⟩ <;> omega
  · rcases hclients hj with ⟨rfl, hnew⟩ | ⟨hj', hltj⟩ <;>
      rcases hclients hk with ⟨rfl, hnew'⟩ | ⟨hk', hltk⟩
    · rfl
    · omega
    · omega
    · exact h.apart hj' hk'

theorem openStream (h : Tended capacity s) (path : String) :
    Tended capacity (s.openStream path).1 := by
  by_cases hroute : Route.ofPath? path = some .events
  · exact h.openStream_of_events hroute
  · have hbus : (s.openStream path).1.bus = s.bus := by
      rw [bus_openStream, if_neg hroute]
    refine h.of_clients (hbus ▸ h.order) (Nat.le_of_eq (by rw [hbus])) fun hk => ?_
    rw [client?_openStream, if_neg fun hnew => hroute hnew.2] at hk
    exact hk

theorem read (h : Tended capacity s) (stream : Nat) : Tended capacity (s.read stream).1 := by
  cases hclient : s.client? stream with
  | none =>
    rw [read_of_closed hclient]
    exact h
  | some i =>
    obtain ⟨r, horder⟩ := h.order
    have hbus := bus_read hclient
    obtain ⟨place, hput, hsame⟩ := s.bus.exists_receiveAll_eq_put i
    rw [hput] at hbus
    refine h.of_clients ⟨r, hbus ▸ horder.put hsame⟩ ?_ fun hk => ?_
    · rw [hbus]
      exact Nat.le_of_eq List.length_set.symm
    · rwa [client?_read] at hk

theorem close (h : Tended capacity s) (stream : Nat) : Tended capacity (s.close stream).1 := by
  cases hclient : s.client? stream with
  | none =>
    rw [close_of_closed hclient]
    exact h
  | some i =>
    obtain ⟨r, horder⟩ := h.order
    refine h.of_clients ?_ ?_ fun hk => ?_
    · rw [close_of_open hclient]
      exact ⟨_, horder.leave i⟩
    · rw [close_of_open hclient]
      exact Nat.le_of_eq List.length_set.symm
    · rw [client?_close] at hk
      split at hk
      · cases hk
      · exact hk

theorem apply (h : Tended capacity s) (op : Op) : Tended capacity (op.apply s) := by
  cases op with
  | openStream path => exact h.openStream path
  | emit e =>
    obtain ⟨r, horder⟩ := h.order
    refine h.of_clients ⟨r, horder.after_send e⟩ ?_ id
    exact Nat.le_of_eq (congrArg List.length (Bus.places_send s.bus e).symm)
  | read stream => exact h.read stream
  | close stream => exact h.close stream
  | elapse ms => exact ⟨h.order, h.known, h.apart⟩
  | report status => exact ⟨h.order, h.known, h.apart⟩

/-- Where no stream was opened yet, nothing has to be shown of streams. -/
theorem start {r : Bus.Roster} {bus : Bus Event} (h : Bus.InOrder capacity r bus)
    (status : Status NowPlaying) (now : Nat) : Tended capacity { status, bus, now } where
  order := ⟨r, h⟩
  known hk := absurd (lt_of_client? hk) (Nat.not_lt_zero _)
  apart hj _ := absurd (lt_of_client? hj) (Nat.not_lt_zero _)

theorem run (h : Tended capacity s) (ops : List Op) : Tended capacity (s.run ops) := by
  induction ops generalizing s with
  | nil => exact h
  | cons op ops ih => exact ih (h.apply op)

end Tended

/-! ## The events before a stream -/

/-- A stream is open, and these events are before it. -/
def Awaits (s : StatusServer) (stream : Nat) (events : List Event) : Prop :=
  ∃ i, s.client? stream = some i ∧ s.bus.Serves i events

theorem filterMap_event? (receipts : List (Receipt Event)) :
    receipts.filterMap Sse.Feed.event? = Receipt.values receipts := by
  refine List.filterMap_congr fun receipt _ => ?_
  cases receipt <;> rfl

namespace Awaits

variable {capacity : Nat} {events : List Event}

/-- A stream just opened. -/
theorem openStream (h : Tended capacity s) {path : String}
    (hroute : Route.ofPath? path = some .events) :
    (s.openStream path).1.Awaits s.feeds.length [] := by
  obtain ⟨r, horder⟩ := h.order
  obtain ⟨row, hkeeps⟩ := horder.keeps
  refine ⟨s.bus.places.length, ?_, ?_⟩
  · rw [client?_openStream, if_pos ⟨rfl, hroute⟩]
  · rw [bus_openStream, if_pos hroute]
    exact Bus.Serves.subscribe hkeeps

/-- One operation adds an event sent, and takes all events away where the stream is read. Whatever
is done to other streams makes no difference. -/
theorem apply (h : s.Awaits stream events) (htended : Tended capacity s) {op : Op}
    (hstays : op ≠ .close stream) : (op.apply s).Awaits stream (op.unread stream events) := by
  obtain ⟨i, hclient, hserves⟩ := h
  cases op with
  | openStream path =>
    have hne : stream ≠ s.feeds.length := Nat.ne_of_lt (lt_of_client? hclient)
    refine ⟨i, ?_, ?_⟩
    · rw [Op.apply, client?_openStream, if_neg fun hnew => hne hnew.1]
      exact hclient
    · rw [Op.apply, bus_openStream]
      split
      · exact hserves.subscribe_other
      · exact hserves
  | emit e => exact ⟨i, hclient, hserves.send e⟩
  | read k =>
    refine ⟨i, (client?_read s k stream).trans hclient, ?_⟩
    rw [Op.apply, Op.unread]
    by_cases hk : k = stream
    · rw [if_pos hk, hk, bus_read hclient]
      exact hserves.receiveAll.2
    · rw [if_neg hk]
      cases hother : s.client? k with
      | none =>
        rw [read_of_closed hother]
        exact hserves
      | some j =>
        -- Another stream is another subscriber, so what its reading moves is another place.
        have hne : i ≠ j := fun heq => hk (htended.apart hother (heq ▸ hclient))
        obtain ⟨place, hput, -⟩ := s.bus.exists_receiveAll_eq_put j
        rw [bus_read hother, hput]
        exact hserves.put hne place
  | close k =>
    have hk : stream ≠ k := fun heq => hstays (heq ▸ rfl)
    refine ⟨i, ?_, ?_⟩
    · rw [Op.apply, client?_close, if_neg hk]
      exact hclient
    · rw [Op.apply]
      cases hother : s.client? k with
      | none =>
        rw [close_of_closed hother]
        exact hserves
      | some j =>
        have hne : i ≠ j := fun heq => hk (htended.apart hclient (heq ▸ hother))
        rw [close_of_open hother]
        exact hserves.put hne none
  | elapse ms => exact ⟨i, hclient, hserves⟩
  | report status => exact ⟨i, hclient, hserves⟩

theorem run (h : s.Awaits stream events) (htended : Tended capacity s) {ops : List Op}
    (hstays : .close stream ∉ ops) :
    (s.run ops).Awaits stream (ops.foldl (Op.unread stream) events) := by
  induction ops generalizing s events with
  | nil => exact h
  | cons op ops ih =>
    rw [List.mem_cons, not_or] at hstays
    exact ih (h.apply htended (Ne.symm hstays.1)) (htended.apply op) hstays.2

/-- What is read: the frames of the latest events, or, where there was no event, at most a
comment. -/
theorem texts_read (h : s.Awaits stream events) :
    let latest := events.drop (events.length - s.bus.capacity)
    (s.read stream).2 = latest.map (fun e => (Sse.Frame.ofEvent e).render) ∨
      latest = [] ∧ (s.read stream).2 = [Sse.keepAlive] := by
  intro latest
  obtain ⟨i, hclient, hserves⟩ := h
  obtain ⟨feed, hfeed, rfl⟩ := client?_eq_some.1 hclient
  have hreceived : (s.bus.receiveAll feed.subscriber).2.filterMap Sse.Feed.event? = latest := by
    rw [filterMap_event?]
    exact hserves.receiveAll.1
  rw [read_of_open hfeed]
  dsimp only
  rw [Sse.Feed.texts_read, hreceived]
  split
  · rename_i hnone
    split
    · exact .inr ⟨hnone, rfl⟩
    · rw [hnone]
      exact .inl rfl
  · exact .inl rfl

/-- When an open stream is closed there is one subscriber fewer, as the outcome says. -/
theorem close (h : s.Awaits stream events) :
    s.bus.subscribers = (s.close stream).2 + 1 ∧ (s.close stream).1.Shut stream := by
  obtain ⟨i, hclient, passed, -, hplace⟩ := h
  refine ⟨?_, ?_, ?_⟩
  · rw [close_snd, close_of_open hclient]
    exact Bus.subscribers_leave hplace
  · exact Nat.lt_of_lt_of_le (lt_of_client? hclient) (length_feeds_apply s (.close stream))
  · rw [client?_close, if_pos rfl]

end Awaits

/-- A stream that was opened and not closed since gives the frames of the latest events sent since
it was last read. -/
theorem Tended.read_since_opening {capacity : Nat} (h : Tended capacity s)
    (hcapacity : 0 < capacity) {path : String} (hroute : Route.ofPath? path = some .events)
    {ops : List Op} (hstays : .close s.feeds.length ∉ ops) :
    let texts := (((s.openStream path).1.run ops).read s.feeds.length).2
    let fresh := sinceRead s.feeds.length ops
    let latest := fresh.drop (fresh.length - capacity)
    latest.length = min fresh.length capacity ∧
      (texts = latest.map (fun e => (Sse.Frame.ofEvent e).render) ∨
        fresh = [] ∧ texts = [Sse.keepAlive]) := by
  intro texts fresh latest
  have hopened := h.openStream path
  have hawaits : ((s.openStream path).1.run ops).Awaits s.feeds.length fresh :=
    (Awaits.openStream h hroute).run hopened hstays
  have hlatest : latest.length = min fresh.length capacity := by
    rw [List.length_drop]
    omega
  obtain ⟨r, horder⟩ := (hopened.run ops).order
  have htexts := hawaits.texts_read
  rw [horder.capacity_eq] at htexts
  refine ⟨hlatest, ?_⟩
  rcases htexts with hframes | ⟨hnone, hcomment⟩
  · exact .inl hframes
  · have hzero : min fresh.length capacity = 0 :=
      hlatest.symm.trans (congrArg List.length hnone)
    exact .inr ⟨List.eq_nil_of_length_eq_zero (by omega), hcomment⟩

/-- When a stream that was opened is closed there is one subscriber fewer, and whatever is done
later it gives nothing. -/
theorem Tended.close_since_opening {capacity : Nat} (h : Tended capacity s) {path : String}
    (hroute : Route.ofPath? path = some .events) {ops : List Op}
    (hstays : .close s.feeds.length ∉ ops) :
    let live := (s.openStream path).1.run ops
    let (left, others) := live.close s.feeds.length
    live.bus.subscribers = others + 1 ∧ left.bus.subscribers = others ∧
      ∀ later, (left.run later).read s.feeds.length = (left.run later, []) := by
  intro live
  have hawaits := (Awaits.openStream h hroute).run (h.openStream path) hstays
  obtain ⟨hfewer, hshut⟩ := hawaits.close
  exact ⟨hfewer, (close_snd ..).symm, fun later => read_of_closed (hshut.run later).closed⟩

/-! ## The main result -/

/-- What is sent over a bus is accounted for. Its capacity is the least power of two that is not
below the size asked for.

After any operations, a sender is told how many subscribers are there, or is given the event back
where there are none; one that is not there gets nothing.

A subscriber gets what a mailbox gets that is told of nothing but the events sent since it came and
of its own asking, so it makes no difference to it what others do or fail to do. The events it
received are some of those sent since it came, in the same order and each at most once; with those
it was told it lost and those still before it they are all. Its receipts account for the events
that it has come past, one after the other; it loses the oldest of those before it, and only when
they are more than the capacity.

A stream of the status API that is opened and then read gives the frames of the latest events sent
since it was opened or last read, as many as the capacity at most, the oldest first; only where
there was none it may give a comment. When it is closed there is one subscriber fewer, and it gives
nothing any more, whatever is done later. -/
theorem delivery_accounted {size : Nat} {bus : Bus Event} (h : Bus.ofCapacity? size = some bus) :
    ((∃ n, bus.capacity = 2 ^ n) ∧ size ≤ bus.capacity ∧ bus.capacity < 2 * size) ∧
    (∀ (ops : List (Bus.Op Event)) (e : Event),
      let later := (bus.run ops).1
      let present := (Bus.Roster.after ops).present
      (later.send e).2 = (if present = [] then .error e else .ok present.length) ∧
      (present = [] → later.send e = (later, .error e)) ∧
      later.emitLossy e = (later.send e).1 ∧
      ∀ i, i ∉ present → later.receive i = (later, .gone)) ∧
    (∀ before after : List (Bus.Op Event),
      let came := (bus.run before).1.subscribe
      let i := came.2
      .leave i ∉ after →
      let later := came.1.run after
      let sent := after.filterMap Bus.Op.value?
      let receipts := later.2.filterMap (Bus.Answer.receipt? i)
      receipts = (Mailbox.after bus.capacity (after.filterMap (Bus.Op.sight? i))).receipts ∧
      (Receipt.values receipts).Sublist sent ∧
      (Receipt.values receipts).length + Receipt.allLost receipts + later.1.backlog i =
        sent.length ∧
      ∃ passed unread, sent = passed ++ unread ∧ Receipt.Accounts passed receipts ∧
        later.1.backlog i = unread.length ∧
        (later.1.receive i).2 =
          if bus.capacity < unread.length then .lagged (unread.length - bus.capacity)
          else unread.head?.elim .empty .value) ∧
    ∀ (status : Status NowPlaying) (now : Nat) (before after : List Op) (path : String),
      let s := run { status, bus, now } before
      let stream := s.feeds.length
      Route.ofPath? path = some .events → .close stream ∉ after →
      let texts := ((run (s.openStream path).1 after).read stream).2
      let fresh := sinceRead stream after
      let latest := fresh.drop (fresh.length - bus.capacity)
      latest.length = min fresh.length bus.capacity ∧
        (texts = latest.map (fun e => (Sse.Frame.ofEvent e).render) ∨
          fresh = [] ∧ texts = [Sse.keepAlive]) ∧
        let live := run (s.openStream path).1 after
        let (left, others) := live.close stream
        live.bus.subscribers = others + 1 ∧ left.bus.subscribers = others ∧
          ∀ later, (run left later).read stream = (run left later, []) := by
  have hstart : Bus.InOrder bus.capacity {} bus := Bus.InOrder.ofCapacity? h
  refine ⟨Bus.capacity_of_ofCapacity? h, ?_, ?_, ?_⟩
  · intro ops e later present
    have hlater : Bus.InOrder bus.capacity (Bus.Roster.after ops) later := hstart.run ops
    refine ⟨?_, fun hnobody => hlater.send_of_eq_nil hnobody e, rfl,
      fun i hi => hlater.receive_of_notMem hi⟩
    split
    · rename_i hnobody
      rw [hlater.send_of_eq_nil hnobody]
    · rename_i hsomebody
      exact hlater.send_of_ne_nil hsomebody e
  · intro before after came i hstays
    exact (hstart.run before).since_subscribing hstays
  · intro status now before after path s stream hroute hstays
    have hpos : 0 < bus.capacity := by
      obtain ⟨-, hle, hlt⟩ := Bus.capacity_of_ofCapacity? h
      omega
    have htended : Tended bus.capacity s := (Tended.start hstart status now).run before
    obtain ⟨hlatest, htexts⟩ := htended.read_since_opening hpos hroute hstays
    exact ⟨hlatest, htexts, htended.close_since_opening hroute hstays⟩

/-- With a capacity of four, a subscriber with six events before it loses two of them, and a stream
with five of them gives the last four, while others come, leave and ask as they like. -/
theorem latest_four_delivered :
    let notice := fun n : UInt64 => Event.mk (.enqueued "a" n) .epoch
    let bus : Bus Event := { capacity := 4 }
    let ops : List (Bus.Op Event) :=
      [.emit (notice 1), .receive 0, .emitLossy (notice 2), .emit (notice 3), .subscribe,
        .emit (notice 4), .leave 0, .emitLossy (notice 5), .emit (notice 6), .receive 1, .receive 1]
    let calls : List Op :=
      [.emit (notice 1), .read 1, .emit (notice 2), .openStream "/status", .emit (notice 3),
        .close 0, .emit (notice 4), .elapse 15000, .emit (notice 5), .emit (notice 6)]
    Bus.ofCapacity? 3 = some bus ∧ .leave 1 ∉ ops ∧
      Route.ofPath? "/events?all" = some .events ∧ .close 1 ∉ calls ∧
      (let later := (bus.run [.subscribe]).1.subscribe.1.run ops
        let receipts := later.2.filterMap (Bus.Answer.receipt? 1)
        receipts = [.lagged 2, .value (notice 3)] ∧ later.1.backlog 1 = 3 ∧
          (Receipt.values receipts).length + Receipt.allLost receipts + later.1.backlog 1 = 6) ∧
      ∀ (status : Status NowPlaying) (now : Nat),
        let s := run { status, bus, now } [.openStream "/events"]
        ((run (s.openStream "/events?all").1 calls).read 1).2 =
          [notice 3, notice 4, notice 5, notice 6].map fun e => (Sse.Frame.ofEvent e).render := by
  intro notice bus ops calls
  have hbus : Bus.ofCapacity? 3 = some bus := by rfl
  have hstays : Bus.Op.leave 1 ∉ ops := by simp [ops]
  have hroute : Route.ofPath? "/events?all" = some .events := by rfl
  have hopen : Op.close 1 ∉ calls := by simp [calls]
  obtain ⟨-, -, hdelivered, hstreams⟩ := delivery_accounted hbus
  refine ⟨hbus, hstays, hroute, hopen, ⟨by decide +kernel, by decide +kernel, ?_⟩, ?_⟩
  · have hsent : (ops.filterMap Bus.Op.value?).length = 6 := by rfl
    exact (hdelivered [.subscribe] ops hstays).2.2.1.trans hsent
  · intro status now
    have htexts := hstreams status now [.openStream "/events"] calls "/events?all" hroute hopen
    rcases htexts.2.1 with hframes | ⟨hnone, -⟩
    · exact hframes
    · exact absurd hnone (by simp [calls, sinceRead, Op.unread])

end Jukebox.StatusServer
