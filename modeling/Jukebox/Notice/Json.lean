import Jukebox.Document.Json.Printer
import Jukebox.Document.Json.Reader
import Jukebox.Notice.Basic
import Jukebox.Time.Printer
import Jukebox.Time.Reader

/-!
# Events in JSON

An event is a table with the word for its kind under `type`, the fields of that kind, and the time
under `timestamp`. Writing gives the fields in a fixed order. Reading takes them in any order,
passes over fields that the kind does not have, and lets `session_id` be absent where it may be
`null`. A list of the word and the fields in their order is read as well.

Of several faults the one of the tag comes first, then fields with a wrong value in the order of
their keys, then the first absent field.
-/

namespace Jukebox.Event

open Document

/-- The key of the tag. -/
def tagKey : String := "type"

/-- The fields of a notice with their values, in the order in which they are written. -/
def noticeEntries : Notice Uuid UInt64 → Entries
  | .enqueued identifier queueLength =>
    [("identifier", .string identifier), ("queue_len", .integer queueLength.toNat)]
  | .started session identifier | .ended session identifier =>
    [("session_id", .string session.render), ("identifier", .string identifier)]
  | .errored session identifier reason =>
    [ ("session_id", match session with | some u => .string u.render | none => .null),
      ("identifier", .string identifier), ("reason", .string reason) ]
  | .skipRequested | .idle => []
  | .linkChanged generation state =>
    [("generation", .integer generation.toNat), ("state", .string state.name)]

/-- The table of an event. -/
def toDocument (e : Event) : Document :=
  .table ((tagKey, .string e.notice.kind.name) :: noticeEntries e.notice ++
    [("timestamp", .string e.time.render)])

/-- The JSON text of an event. -/
def render (e : Event) : String :=
  Json.render e.toDocument

/-- The fields of an event as far as they have been read. -/
structure Draft where
  identifier : Option String := none
  queueLength : Option UInt64 := none
  session : Option (Option Uuid) := none
  reason : Option String := none
  generation : Option UInt64 := none
  state : Option ReadyState := none
  time : Option Instant := none

/-- A UUID. -/
def toUuid : Document → Decoded Uuid
  | .string s =>
    match Uuid.parse? s with
    | .ok u => .ok u
    | .error e => .error (.malformed e.message)
  | d => d.mismatch .json "a formatted UUID string"

/-- An instant. -/
def toInstant : Document → Decoded Instant
  | .string s =>
    match Instant.parse s with
    | .ok i => .ok i
    | .error e => .error (.malformed e.message)
  | d => d.mismatch .json "an RFC 3339 formatted date and time string"

/-- A ready state. Within an event its word may also be the only key of a table with an empty table
as its value. -/
def toReadyState : Document → Decoded ReadyState
  | .table [(name, .table [])] => toVariant ReadyState.names name
  | d => ReadyState.ofDocument d

/-- A session that may be null. -/
def toMaybeUuid : Document → Decoded (Option Uuid)
  | .null => .ok none
  | d => (toUuid d).map some

/-- A field under a key, with the way to decode its value and the way to put it in a draft. -/
def field {β : Type} (key : String) (decode : Document → Decoded β)
    (put : Draft → Option β → Draft) : RecordField Draft :=
  ⟨key, fun draft d => do return put draft (some (← decode d))⟩

/-- The field of the item. -/
def identifierField : RecordField Draft :=
  field "identifier" (toText .json) fun draft v => { draft with identifier := v }

/-- The field of the length of the queue. -/
def queueLengthField : RecordField Draft :=
  field "queue_len" (toWord64 .json "usize") fun draft v => { draft with queueLength := v }

/-- The field of a session that is always there. -/
def sessionField : RecordField Draft :=
  field "session_id" (fun d => (toUuid d).map some) fun draft v => { draft with session := v }

/-- The field of a session that need not be there. -/
def maybeSessionField : RecordField Draft :=
  field "session_id" toMaybeUuid fun draft v => { draft with session := v }

/-- The field of the reason for a failure. -/
def reasonField : RecordField Draft :=
  field "reason" (toText .json) fun draft v => { draft with reason := v }

/-- The field of the generation of the connection. -/
def generationField : RecordField Draft :=
  field "generation" (toWord64 .json "u64") fun draft v => { draft with generation := v }

/-- The field of the state of the connection. -/
def stateField : RecordField Draft :=
  field "state" toReadyState fun draft v => { draft with state := v }

/-- The field of the time. -/
def timeField : RecordField Draft :=
  field "timestamp" toInstant fun draft v => { draft with time := v }

/-- The fields of a kind in their order. -/
def fieldsOf : NoticeKind → List (RecordField Draft)
  | .enqueued => [identifierField, queueLengthField, timeField]
  | .started | .ended => [sessionField, identifierField, timeField]
  | .errored => [maybeSessionField, identifierField, reasonField, timeField]
  | .skipRequested | .idle => [timeField]
  | .linkChanged => [generationField, stateField, timeField]

/-- A field that has to be there. -/
def required {α : Type} (key : String) : Option α → Decoded α
  | some a => .ok a
  | none => .error (.missingField key)

/-- The event of a kind, once its fields have been read. -/
def ofDraft (kind : NoticeKind) (draft : Draft) : Decoded Event :=
  let session : Decoded Uuid := required "session_id" (draft.session.join)
  let identifier := required "identifier" draft.identifier
  let time := required "timestamp" draft.time
  match kind with
  | .enqueued => do
    let identifier ← identifier
    let queueLength ← required "queue_len" draft.queueLength
    return ⟨.enqueued identifier queueLength, ← time⟩
  | .started => do
    let session ← session
    return ⟨.started session (← identifier), ← time⟩
  | .ended => do
    let session ← session
    return ⟨.ended session (← identifier), ← time⟩
  | .errored => do
    let identifier ← identifier
    let reason ← required "reason" draft.reason
    return ⟨.errored (draft.session.join) identifier reason, ← time⟩
  | .skipRequested => do return ⟨.skipRequested, ← time⟩
  | .idle => do return ⟨.idle, ← time⟩
  | .linkChanged => do
    let generation ← required "generation" draft.generation
    let state ← required "state" draft.state
    return ⟨.linkChanged generation state, ← time⟩

/-- The kind that a tag names. -/
def toKind : Document → Decoded NoticeKind
  | .string s => toVariant NoticeKind.names s
  | d => d.mismatch .json "variant identifier"

/-- A count of elements in words. -/
def elements (n : Nat) : String :=
  if n = 1 then "1 element" else s!"{n} elements"

/-- The items of a list set the fields of a kind in their order; there has to be one for each. -/
def readItems (kind : NoticeKind) (done : Nat) :
    List (RecordField Draft) → List Document → Draft → Decoded Draft
  | [], [], draft => .ok draft
  | [], items@(_ :: _), _ =>
    .error (.wrongLength (done + items.length) s!"{elements done} in sequence")
  | fields@(_ :: _), [], _ =>
    .error (.wrongLength done
      s!"struct variant QueueEvent::{kind.name} with {elements (done + fields.length)}")
  | field :: fields, item :: items, draft => do
    readItems kind (done + 1) fields items (← field.set draft item)

/-- The event that a document describes. -/
def ofDocument : Document → Decoded Event
  | .table entries => do
    match Entries.get? entries tagKey with
    | none => .error (.missingField tagKey)
    | some tag =>
      let kind ← toKind tag
      ofDraft kind (← setEntries (fieldsOf kind) entries {})
  | .list [] => .error (.missingField tagKey)
  | .list (tag :: items) => do
    let kind ← toKind tag
    ofDraft kind (← readItems kind 0 (fieldsOf kind) items {})
  | d => d.mismatch .json "internally tagged enum QueueEvent"

/-- The event that a JSON text describes; `none` for a text that is not JSON. -/
def parse? (text : String) : Option (Decoded Event) :=
  (Json.parse? text).map ofDocument

end Jukebox.Event
