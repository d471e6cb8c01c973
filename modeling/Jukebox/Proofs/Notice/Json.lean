import Jukebox.Proofs.Document.Json.Values
import Jukebox.Proofs.Notice.Decode
import Jukebox.Proofs.Uuid

/-!
# Events in JSON, written and read

Every event is read back from its JSON text, whatever its texts and numbers are, with the time that
the text of its time tells, and the tag in that text is the name under which the event is sent
(`read_back_from_json`). The time is the one that was written unless that lies in a leap second
within a minute, which the text does not tell from the second after it (`leap_second_lost`).

However a value that is read as an event was spelled, written again it has one text, which is read
as the same event: what was read has a time that its text tells. Which values are read is told by
the fields they have (`GivenBy`), with UUIDs and times in the spellings of `Uuid.parse?_simple`,
`Uuid.parse?_braced`, `Uuid.parse?_urn` and `Instant.parse_spelled` among others.

What is read from the text is the table of the event in the order of the keys
(`settled_toDocument`), which is not the order in which the fields were written. Its entries are
those of the event as told (`givenBy_sortedEntries`).
-/

namespace Jukebox.Event

open Document

/-! ## The table of an event -/

theorem writable_noticeEntries (notice : Notice Uuid UInt64) :
    ∀ entry ∈ noticeEntries notice, Json.Writable 126 entry.2 := by
  have hcount (n : UInt64) : Json.Writable 126 (.integer n.toNat) :=
    .integer (by omega) (Int.ofNat_lt.2 n.toNat_lt_size)
  cases notice with
  | enqueued identifier queueLength => simp [noticeEntries, hcount, Json.Writable.string]
  | started | ended => simp [noticeEntries, Json.Writable.string]
  | errored session =>
    cases session <;> simp [noticeEntries, Json.Writable.string, Json.Writable.null]
  | skipRequested | idle => simp [noticeEntries]
  | linkChanged => simp [noticeEntries, hcount, Json.Writable.string]

/-- Nothing in the table of an event is nested, and its counts are those that JSON keeps exact. -/
theorem writable_toDocument (e : Event) : Json.Writable 127 e.toDocument := by
  refine .table ?_
  intro entry hentry
  rw [List.cons_append, List.mem_cons, List.mem_append, List.mem_singleton] at hentry
  rcases hentry with rfl | hentry | rfl
  · exact .string _
  · exact writable_noticeEntries e.notice entry hentry
  · exact .string _

/-- The fields of an event in the order of their keys. -/
def sortedEntries (e : Event) : Entries :=
  let time := ("timestamp", .string e.time.render)
  let tag := (tagKey, .string e.notice.kind.name)
  match e.notice with
  | .enqueued identifier queueLength =>
    [("identifier", .string identifier), ("queue_len", .integer queueLength.toNat), time, tag]
  | .started session identifier | .ended session identifier =>
    [("identifier", .string identifier), ("session_id", .string session.render), time, tag]
  | .errored session identifier reason =>
    [ ("identifier", .string identifier), ("reason", .string reason),
      ("session_id", match session with | some u => .string u.render | none => .null), time, tag ]
  | .skipRequested | .idle => [time, tag]
  | .linkChanged generation state =>
    [ ("generation", .integer generation.toNat), ("state", .string state.name), time, tag ]

theorem settled_toDocument (e : Event) : Json.settled e.toDocument = .table e.sortedEntries := by
  obtain ⟨notice, time⟩ := e
  cases notice with
  | errored session =>
    cases session <;> simp +decide [toDocument, noticeEntries, Json.settled, Json.settledEntries,
      Entries.sorted, Entries.insertSorted, sortedEntries, tagKey]
  | _ =>
    simp +decide [toDocument, noticeEntries, Json.settled, Json.settledEntries, Entries.sorted,
      Entries.insertSorted, sortedEntries, tagKey]

theorem distinct_sortedEntries (e : Event) : Entries.Distinct e.sortedEntries := by
  obtain ⟨notice, time⟩ := e
  cases notice <;> simp [sortedEntries, Entries.Distinct, tagKey]

/-! ## Reading the table -/

/-- The event with the time that its text tells. -/
def asTold (e : Event) : Event := { e with time := e.time.asTold }

theorem name_asTold (e : Event) : e.asTold.name = e.name := rfl

theorem asTold_eq_iff {e : Event} : e.asTold = e ↔ e.time.Told := by
  rw [asTold, ← Instant.asTold_eq_iff]
  constructor
  · intro h
    exact congrArg Event.time h
  · intro h
    rw [h]

theorem render_asTold (e : Event) : e.asTold.render = e.render := by
  rw [render, render, toDocument, toDocument, asTold, Instant.render_asTold]

/-- What is written of an event are the entries of the event as told. -/
theorem givenBy_sortedEntries (e : Event) : GivenBy e.sortedEntries e.asTold := by
  obtain ⟨notice, time⟩ := e
  cases notice with
  | errored session =>
    cases session <;> simp [GivenBy, NoticeIn, MaybeSessionIn, SessionIn, TimeIn, sortedEntries,
      Entries.get?, tagKey, asTold, name, Notice.streamName, Notice.kind, NoticeKind.name,
      Uuid.parse?_render, Instant.parse_render]
  | _ =>
    simp [GivenBy, NoticeIn, SessionIn, TimeIn, sortedEntries, Entries.get?, tagKey, asTold, name,
      Notice.streamName, Notice.kind, NoticeKind.name, NamesState, Uuid.parse?_render,
      Instant.parse_render]

theorem ofDocument_sortedEntries (e : Event) :
    ofDocument (.table e.sortedEntries) = .ok e.asTold :=
  (ofDocument_table_eq_ok_iff e.distinct_sortedEntries).2 e.givenBy_sortedEntries

theorem get?_sortedEntries_tag (e : Event) :
    Entries.get? e.sortedEntries "type" = some (.string e.name) := by
  rw [e.givenBy_sortedEntries.1, name_asTold]

/-! ## Texts -/

theorem jsonParse?_render (e : Event) : Json.parse? e.render = some (.table e.sortedEntries) := by
  rw [render, Json.parse?_render e.writable_toDocument, settled_toDocument]

theorem parse?_render (e : Event) : parse? e.render = some (.ok e.asTold) := by
  rw [parse?, jsonParse?_render, Option.map_some, ofDocument_sortedEntries]

/-- Every event is read back from its JSON text with the time that the text tells, which is its own
time unless that lies in a leap second within a minute. The value of the tag in the text is the name
of the event, and what was read is written with the same text. Of every value that is read as an
event, whatever it is and however it is spelled, just what was read is read again from the text
written of it. A table is read as an event if it has the fields of that event under their keys, in
any order and among any others; a list is if it has their values in the order of the keys. -/
theorem read_back_from_json :
    (∀ e : Event,
      parse? e.render = some (.ok e.asTold) ∧ (e.asTold = e ↔ e.time.Told) ∧
      e.asTold.render = e.render ∧
      ∃ entries : Entries, Json.parse? e.render = some (.table entries) ∧
        entries.get? "type" = some (.string e.name)) ∧
    (∀ d e, ofDocument d = .ok e → parse? e.render = some (.ok e)) ∧
    (∀ (entries : Entries) (e : Event), entries.Distinct →
      (ofDocument (.table entries) = .ok e ↔ GivenBy entries e)) ∧
    ∀ (tag : Document) (items : List Document) (e : Event),
      ofDocument (.list (tag :: items)) = .ok e ↔
        items.length = (keysOf e.notice.kind).length ∧
          GivenBy (("type", tag) :: (keysOf e.notice.kind).zip items) e := by
  refine ⟨?_, ?_, fun _ _ h => ofDocument_table_eq_ok_iff h, fun _ _ _ => ofDocument_list_eq_ok_iff⟩
  · intro e
    exact ⟨e.parse?_render, asTold_eq_iff, e.render_asTold, e.sortedEntries, e.jsonParse?_render,
      e.get?_sortedEntries_tag⟩
  · intro d e h
    rw [e.parse?_render, asTold_eq_iff.2 (told_of_ofDocument h)]

/-- A leap second behind the second with number thirty is read as a part of the next one. -/
theorem leap_second_lost :
    let date : Date := ⟨2024, 1, 15, by decide, by decide, by decide, by decide⟩
    let leap : Event := ⟨.idle, ⟨date, 630, 30, 1500000000⟩⟩
    let next : Event := ⟨.idle, ⟨date, 630, 31, 500000000⟩⟩
    parse? leap.render = some (.ok next) ∧ parse? leap.render ≠ some (.ok leap) := by
  intro date leap next
  have htold : leap.asTold = next := by decide
  have hne : next ≠ leap := by decide
  rw [leap.parse?_render, htold]
  exact ⟨rfl, fun h => hne (Except.ok.inj (Option.some.inj h))⟩

end Jukebox.Event
