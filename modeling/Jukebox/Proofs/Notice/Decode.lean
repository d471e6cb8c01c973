import Jukebox.Notice.Json
import Jukebox.Proofs.Document.Records
import Jukebox.Proofs.Time

/-!
# Events, decoded

Which documents describe an event. A table does if it has the word of a kind under `type` and a
value for each field of that kind under its key (`GivenBy`): the order of its entries does not
matter, nor do keys that the kind does not have, a session that may be absent may also be null, and
a UUID, a time and a ready state have several spellings (`ofDocument_table_eq_ok_iff`). A list
describes the event of the table that has its items under the keys in their order
(`ofDocument_list_eq_ok_iff`). However the time was spelled, the event has the one that its text
tells (`told_of_ofDocument`).

The fields of a kind are parts of a draft, each absent at first, that do not touch each other
(`apart_parts`). So a draft is read field by field, and an event is made of a draft if the fields of
its kind are there.
-/

namespace Jukebox.Event

open Document

/-! ## Values -/

variable {d : Document}

theorem toKind_eq_ok_iff {kind : NoticeKind} : toKind d = .ok kind ↔ d = .string kind.name := by
  cases d with
  | string word =>
    rw [toKind, toVariant_eq_ok_iff (by decide), string.injEq]
    cases kind <;> simp [NoticeKind.names, NoticeKind.all, NoticeKind.name]
  | _ => simp [toKind, mismatch]

theorem toUuid_eq_ok_iff {u : Uuid} :
    toUuid d = .ok u ↔ ∃ text, d = .string text ∧ Uuid.parse? text = .ok u := by
  cases d with
  | string text => cases h : Uuid.parse? text <;> simp [toUuid, h]
  | _ => simp [toUuid, mismatch]

theorem map_toUuid_eq_ok_iff {u : Uuid} :
    (toUuid d).map some = .ok (some u) ↔ ∃ text, d = .string text ∧ Uuid.parse? text = .ok u := by
  rw [← toUuid_eq_ok_iff]
  cases toUuid d <;> simp [Except.map]

theorem toMaybeUuid_eq_ok_some_iff {u : Uuid} :
    toMaybeUuid d = .ok (some u) ↔ ∃ text, d = .string text ∧ Uuid.parse? text = .ok u := by
  rw [toMaybeUuid.eq_def]
  split
  · simp
  · exact map_toUuid_eq_ok_iff

theorem toMaybeUuid_eq_ok_none_iff : toMaybeUuid d = .ok none ↔ d = .null := by
  rw [toMaybeUuid.eq_def]
  split
  · simp
  · rename_i hother
    have hnull : d ≠ .null := fun h => hother h
    cases toUuid d <;> simp [Except.map, hnull]

theorem toInstant_eq_ok_iff {i : Instant} :
    toInstant d = .ok i ↔ ∃ text, d = .string text ∧ Instant.parse text = .ok i := by
  cases d with
  | string text => cases h : Instant.parse text <;> simp [toInstant, h]
  | _ => simp [toInstant, mismatch]

/-- The document names the ready state: by its word, or as a table with the word as its only key and
nothing under it. -/
def NamesState (d : Document) (s : ReadyState) : Prop :=
  d = .string s.name ∨ d = .table [(s.name, .null)] ∨ d = .table [(s.name, .table [])]

theorem toVariant_states_eq_ok_iff {word : String} {s : ReadyState} :
    toVariant ReadyState.names word = .ok s ↔ word = s.name := by
  rw [toVariant_eq_ok_iff (by decide)]
  cases s <;> simp [ReadyState.names, ReadyState.name]

theorem toReadyState_eq_ok_iff {s : ReadyState} : toReadyState d = .ok s ↔ NamesState d s := by
  cases d with
  | string word =>
    simp [toReadyState, ReadyState.ofDocument, toChoice, NamesState, toVariant_states_eq_ok_iff]
  | table entries =>
    rcases entries with _ | ⟨⟨word, value⟩, _ | ⟨second, others⟩⟩
    · simp [toReadyState, ReadyState.ofDocument, toChoice, NamesState]
    · rw [NamesState]
      simp only [reduceCtorEq, false_or, table.injEq, List.cons.injEq, Prod.mk.injEq, and_true]
      rw [← and_or_left, ← toVariant_states_eq_ok_iff]
      simp only [toReadyState.eq_def, ReadyState.ofDocument, toChoice]
      cases value with
      | table inner =>
        cases inner <;> cases hword : toVariant ReadyState.names word <;>
          simp [hword, mismatch, bind, Except.bind]
      | _ =>
        cases hword : toVariant ReadyState.names word <;>
          simp [hword, mismatch, bind, Except.bind]
    · simp [toReadyState, ReadyState.ofDocument, toChoice, NamesState]
  | _ => simp [toReadyState, ReadyState.ofDocument, toChoice, mismatch, NamesState]

/-! ## Fields as parts of a draft -/

/-- The part of a draft that a field sets. -/
def part {β : Type} (key : String) (decode : Document → Decoded β) (get : Draft → Option β)
    (put : Draft → Option β → Draft) : Part Draft :=
  ⟨key, Option β, get, put, fun d => (decode d).map some⟩

theorem field_part {β : Type} (key : String) (decode : Document → Decoded β)
    (get : Draft → Option β) (put : Draft → Option β → Draft) :
    (part key decode get put).field = field key decode put := by
  refine congrArg (RecordField.mk key) (funext fun draft => funext fun d => ?_)
  show (decode d).map some >>= _ = _
  cases decode d <;> rfl

/-- The part for the time, which every kind has. -/
def timePart : Part Draft :=
  part "timestamp" toInstant Draft.time fun draft v => { draft with time := v }

/-- The part for the item. -/
def identifierPart : Part Draft :=
  part "identifier" (toText .json) Draft.identifier fun draft v => { draft with identifier := v }

/-- The part for a session, in one of the ways to decode it. -/
def sessionPart (decode : Document → Decoded (Option Uuid)) : Part Draft :=
  part "session_id" decode Draft.session fun draft v => { draft with session := v }

/-- The fields of a kind as parts. -/
def parts : NoticeKind → List (Part Draft)
  | .enqueued =>
    [ identifierPart,
      part "queue_len" (toWord64 .json "usize") Draft.queueLength
        fun draft v => { draft with queueLength := v },
      timePart ]
  | .started | .ended => [sessionPart fun d => (toUuid d).map some, identifierPart, timePart]
  | .errored =>
    [ sessionPart toMaybeUuid, identifierPart,
      part "reason" (toText .json) Draft.reason fun draft v => { draft with reason := v },
      timePart ]
  | .skipRequested | .idle => [timePart]
  | .linkChanged =>
    [ part "generation" (toWord64 .json "u64") Draft.generation
        fun draft v => { draft with generation := v },
      part "state" toReadyState Draft.state fun draft v => { draft with state := v },
      timePart ]

theorem fieldsOf_eq (kind : NoticeKind) : fieldsOf kind = (parts kind).map Part.field := by
  cases kind <;> simp only [parts, sessionPart, identifierPart, timePart, List.map_cons,
    List.map_nil, field_part] <;> rfl

theorem apart_parts (kind : NoticeKind) : Part.Apart (parts kind) where
  keys := by cases kind <;> decide
  get_put := by cases kind <;> simp [parts, sessionPart, identifierPart, timePart, part]
  get_put_of_ne := by cases kind <;> simp [parts, sessionPart, identifierPart, timePart, part]

/-! ## Reading a draft -/

section Fields

variable {entries : Entries} {draft : Draft} {β : Type} {key : String}
  {decode : Document → Decoded β} {get : Draft → Option β} {put : Draft → Option β → Draft}

/-- A field is absent with its entry, or has the value decoded from it. -/
theorem absent_or_decoded (h : (part key decode get put).Given entries {} draft)
    (hget : get {} = none) :
    (entries.get? key = none ∧ get draft = none) ∨
      ∃ d b, entries.get? key = some d ∧ decode d = .ok b ∧ get draft = some b := by
  rw [Part.Given] at h
  split at h
  · rename_i hentry
    exact .inl ⟨hentry, h.trans hget⟩
  · rename_i d hentry
    have hread : (decode d).map some = .ok (get draft) := h
    refine .inr ⟨d, ?_⟩
    cases hdecode : decode d with
    | error e =>
      rw [hdecode] at hread
      cases hread
    | ok b =>
      rw [hdecode] at hread
      exact ⟨b, hentry, rfl, (Except.ok.inj hread).symm⟩

theorem get_eq_some_iff (h : (part key decode get put).Given entries {} draft)
    (hget : get {} = none) {b : β} :
    get draft = some b ↔ ∃ d, entries.get? key = some d ∧ decode d = .ok b := by
  rcases absent_or_decoded h hget with ⟨hentry, hdraft⟩ | ⟨d, c, hentry, hdecode, hdraft⟩
  · simp [hentry, hdraft]
  · simp [hentry, hdraft, hdecode]

theorem get_eq_none_iff (h : (part key decode get put).Given entries {} draft)
    (hget : get {} = none) : get draft = none ↔ entries.get? key = none := by
  rcases absent_or_decoded h hget with ⟨hentry, hdraft⟩ | ⟨d, c, hentry, hdecode, hdraft⟩
  · simp [hentry, hdraft]
  · simp [hentry, hdraft]

end Fields

/-! ## What a table has to hold -/

variable (entries : Entries)

/-- The text of a session stands under its key. -/
def SessionIn (u : Uuid) : Prop :=
  ∃ text, entries.get? "session_id" = some (.string text) ∧ Uuid.parse? text = .ok u

/-- The text of a session stands under its key; of none, null or nothing. -/
def MaybeSessionIn : Option Uuid → Prop
  | some u => SessionIn entries u
  | none => entries.get? "session_id" = none ∨ entries.get? "session_id" = some .null

/-- The fields of a notice stand under their keys. -/
def NoticeIn : Notice Uuid UInt64 → Prop
  | .enqueued identifier queueLength =>
    entries.get? "identifier" = some (.string identifier) ∧
      entries.get? "queue_len" = some (.integer queueLength.toNat)
  | .started session identifier | .ended session identifier =>
    SessionIn entries session ∧ entries.get? "identifier" = some (.string identifier)
  | .errored session identifier reason =>
    MaybeSessionIn entries session ∧ entries.get? "identifier" = some (.string identifier) ∧
      entries.get? "reason" = some (.string reason)
  | .skipRequested | .idle => True
  | .linkChanged generation state =>
    entries.get? "generation" = some (.integer generation.toNat) ∧
      ∃ d, entries.get? "state" = some d ∧ NamesState d state

/-- The text of a time stands under its key. -/
def TimeIn (i : Instant) : Prop :=
  ∃ text, entries.get? "timestamp" = some (.string text) ∧ Instant.parse text = .ok i

/-- The entries are those of an event: the word for its kind, its fields and its time. -/
def GivenBy (e : Event) : Prop :=
  entries.get? "type" = some (.string e.name) ∧ NoticeIn entries e.notice ∧ TimeIn entries e.time

/-! ## Tables -/

/-- The draft has the fields of the notice. -/
def Draft.Has (draft : Draft) : Notice Uuid UInt64 → Prop
  | .enqueued identifier queueLength =>
    draft.identifier = some identifier ∧ draft.queueLength = some queueLength
  | .started session identifier | .ended session identifier =>
    draft.session = some (some session) ∧ draft.identifier = some identifier
  | .errored session identifier reason =>
    draft.session.join = session ∧ draft.identifier = some identifier ∧
      draft.reason = some reason
  | .skipRequested | .idle => True
  | .linkChanged generation state =>
    draft.generation = some generation ∧ draft.state = some state

theorem required_eq_ok_iff {α : Type} {key : String} {a : α} {value : Option α} :
    required key value = .ok a ↔ value = some a := by
  cases value <;> simp [required]

theorem ofDraft_eq_ok_iff {kind : NoticeKind} {draft : Draft} {e : Event} :
    ofDraft kind draft = .ok e ↔
      e.notice.kind = kind ∧ draft.Has e.notice ∧ draft.time = some e.time := by
  obtain ⟨notice, time⟩ := e
  cases kind <;> cases notice <;>
    simp [ofDraft, bind_eq_ok_iff, required_eq_ok_iff, Option.join_eq_some_iff, Notice.kind,
      Draft.Has, and_assoc, and_left_comm, and_comm]

variable {entries} {kind : NoticeKind} {draft : Draft}

theorem timePart_mem (kind : NoticeKind) : timePart ∈ parts kind := by
  cases kind <;> simp [parts]

/-- The time of a draft was read from the text under its key. -/
theorem time_eq_some_iff (h : ∀ part ∈ parts kind, part.Given entries {} draft) {i : Instant} :
    draft.time = some i ↔ TimeIn entries i := by
  rw [get_eq_some_iff (h timePart (timePart_mem kind)) rfl, TimeIn]
  simp only [toInstant_eq_ok_iff]
  constructor
  · rintro ⟨_, hentry, text, rfl, hparse⟩
    exact ⟨text, hentry, hparse⟩
  · rintro ⟨text, hentry, hparse⟩
    exact ⟨_, hentry, text, rfl, hparse⟩

/-- A session of a draft was read from the text under its key. -/
theorem session_eq_some_iff {decode : Document → Decoded (Option Uuid)}
    (h : (sessionPart decode).Given entries {} draft) {u : Uuid}
    (hdecode : ∀ d, decode d = .ok (some u) ↔
      ∃ text, d = .string text ∧ Uuid.parse? text = .ok u) :
    draft.session = some (some u) ↔ SessionIn entries u := by
  rw [get_eq_some_iff h rfl, SessionIn]
  simp only [hdecode]
  constructor
  · rintro ⟨_, hentry, text, rfl, hparse⟩
    exact ⟨text, hentry, hparse⟩
  · rintro ⟨text, hentry, hparse⟩
    exact ⟨_, hentry, text, rfl, hparse⟩

/-- What a draft has was read from what stands under the keys. -/
theorem has_iff {notice : Notice Uuid UInt64}
    (h : ∀ part ∈ parts notice.kind, part.Given entries {} draft) :
    draft.Has notice ↔ NoticeIn entries notice := by
  cases notice with
  | enqueued identifier queueLength =>
    simp only [Notice.kind, parts, List.forall_mem_cons] at h
    obtain ⟨hidentifier, hqueue, -⟩ := h
    rw [Draft.Has, NoticeIn, get_eq_some_iff hidentifier rfl, get_eq_some_iff hqueue rfl]
    simp [toText_eq_ok_iff, toWord64_eq_ok_iff]
  | started session identifier | ended session identifier =>
    simp only [Notice.kind, parts, List.forall_mem_cons] at h
    obtain ⟨hsession, hidentifier, -⟩ := h
    rw [Draft.Has, NoticeIn, session_eq_some_iff hsession fun _ => map_toUuid_eq_ok_iff,
      get_eq_some_iff hidentifier rfl]
    simp [toText_eq_ok_iff]
  | errored session identifier reason =>
    simp only [Notice.kind, parts, List.forall_mem_cons] at h
    obtain ⟨hsession, hidentifier, hreason, -⟩ := h
    rw [Draft.Has, NoticeIn, get_eq_some_iff hidentifier rfl, get_eq_some_iff hreason rfl]
    simp only [toText_eq_ok_iff, exists_eq_right]
    refine and_congr_left fun _ => ?_
    cases session with
    | none =>
      rw [MaybeSessionIn, Option.join_eq_none_iff, get_eq_none_iff hsession rfl,
        get_eq_some_iff hsession rfl]
      simp [toMaybeUuid_eq_ok_none_iff]
    | some u =>
      rw [MaybeSessionIn, Option.join_eq_some_iff,
        session_eq_some_iff hsession fun _ => toMaybeUuid_eq_ok_some_iff]
  | skipRequested | idle => exact Iff.rfl
  | linkChanged generation state =>
    simp only [Notice.kind, parts, List.forall_mem_cons] at h
    obtain ⟨hgeneration, hstate, -⟩ := h
    rw [Draft.Has, NoticeIn, get_eq_some_iff hgeneration rfl, get_eq_some_iff hstate rfl]
    simp [toWord64_eq_ok_iff, toReadyState_eq_ok_iff]

/-- The field under a key can be decoded. -/
theorem decodes_part {β : Type} {key : String} {decode : Document → Decoded β}
    {get : Draft → Option β} {put : Draft → Option β → Draft} {d : Document} {b : β}
    (hentry : entries.get? key = some d) (hdecode : decode d = .ok b) :
    ∀ other, entries.get? (part key decode get put).key = some other →
      ∃ v, (part key decode get put).decode other = .ok v := by
  intro other hother
  obtain rfl : d = other := Option.some.inj (hentry.symm.trans hother)
  exact ⟨some b, congrArg (Except.map some) hdecode⟩

theorem decodes_sessionPart {decode : Document → Decoded (Option Uuid)} {u : Uuid}
    (h : SessionIn entries u)
    (hdecode : ∀ d, decode d = .ok (some u) ↔
      ∃ text, d = .string text ∧ Uuid.parse? text = .ok u) :
    ∀ d, entries.get? (sessionPart decode).key = some d →
      ∃ v, (sessionPart decode).decode d = .ok v := by
  obtain ⟨text, hentry, hparse⟩ := h
  exact decodes_part hentry ((hdecode _).2 ⟨text, rfl, hparse⟩)

/-- Where the fields of an event stand under their keys, each of them can be decoded. -/
theorem decodes_parts {e : Event} (hnotice : NoticeIn entries e.notice)
    (htime : TimeIn entries e.time) :
    ∀ part ∈ parts e.notice.kind, ∀ d, entries.get? part.key = some d →
      ∃ v, part.decode d = .ok v := by
  obtain ⟨notice, time⟩ := e
  obtain ⟨text, hentry, hparse⟩ := htime
  have htimePart : ∀ d, entries.get? timePart.key = some d → ∃ v, timePart.decode d = .ok v :=
    decodes_part hentry (toInstant_eq_ok_iff.2 ⟨text, rfl, hparse⟩)
  cases notice with
  | enqueued identifier queueLength =>
    obtain ⟨hidentifier, hqueue⟩ := hnotice
    simp only [Notice.kind, parts, List.forall_mem_cons]
    exact ⟨decodes_part hidentifier (toText_eq_ok_iff.2 rfl),
      decodes_part hqueue (toWord64_eq_ok_iff.2 rfl), htimePart, by simp⟩
  | started session identifier | ended session identifier =>
    obtain ⟨hsession, hidentifier⟩ := hnotice
    simp only [Notice.kind, parts, List.forall_mem_cons]
    exact ⟨decodes_sessionPart hsession fun _ => map_toUuid_eq_ok_iff,
      decodes_part hidentifier (toText_eq_ok_iff.2 rfl), htimePart, by simp⟩
  | errored session identifier reason =>
    obtain ⟨hsession, hidentifier, hreason⟩ := hnotice
    have hsessionPart : ∀ d, entries.get? (sessionPart toMaybeUuid).key = some d →
        ∃ v, (sessionPart toMaybeUuid).decode d = .ok v := by
      cases session with
      | some u => exact decodes_sessionPart hsession fun _ => toMaybeUuid_eq_ok_some_iff
      | none =>
        rcases hsession with hentry | hentry
        · intro d hd
          exact absurd (hentry.symm.trans hd) (by simp)
        · exact decodes_part hentry (toMaybeUuid_eq_ok_none_iff.2 rfl)
    simp only [Notice.kind, parts, List.forall_mem_cons]
    exact ⟨hsessionPart, decodes_part hidentifier (toText_eq_ok_iff.2 rfl),
      decodes_part hreason (toText_eq_ok_iff.2 rfl), htimePart, by simp⟩
  | skipRequested | idle =>
    simp only [Notice.kind, parts, List.forall_mem_cons]
    exact ⟨htimePart, by simp⟩
  | linkChanged generation state =>
    obtain ⟨hgeneration, d, hstate, hnames⟩ := hnotice
    simp only [Notice.kind, parts, List.forall_mem_cons]
    exact ⟨decodes_part hgeneration (toWord64_eq_ok_iff.2 rfl),
      decodes_part hstate (toReadyState_eq_ok_iff.2 hnames), htimePart, by simp⟩

/-- The name of an event is the word for its kind. -/
theorem name_eq (e : Event) : e.name = e.notice.kind.name := by
  rw [name]
  cases e.notice <;> rfl

/-- Drafts of a kind are read from the entries of its events, and only from those. -/
theorem exists_draft_iff (h : entries.Distinct) {e : Event} :
    (∃ draft, setEntries (fieldsOf kind) entries {} = .ok draft ∧ ofDraft kind draft = .ok e) ↔
      e.notice.kind = kind ∧ NoticeIn entries e.notice ∧ TimeIn entries e.time := by
  rw [fieldsOf_eq]
  constructor
  · rintro ⟨draft, hset, hdraft⟩
    have hgiven := (apart_parts kind).given_of_setEntries h hset
    obtain ⟨rfl, hhas, htime⟩ := ofDraft_eq_ok_iff.1 hdraft
    exact ⟨rfl, (has_iff hgiven).1 hhas, (time_eq_some_iff hgiven).1 htime⟩
  · rintro ⟨rfl, hnotice, htime⟩
    obtain ⟨draft, hset⟩ :=
      ((apart_parts e.notice.kind).exists_setEntries_iff h).2 (decodes_parts hnotice htime)
    have hgiven := (apart_parts e.notice.kind).given_of_setEntries h hset
    exact ⟨draft, hset,
      ofDraft_eq_ok_iff.2 ⟨rfl, (has_iff hgiven).2 hnotice, (time_eq_some_iff hgiven).2 htime⟩⟩

/-- A table describes the event that its entries give. -/
theorem ofDocument_table_eq_ok_iff (h : entries.Distinct) {e : Event} :
    ofDocument (.table entries) = .ok e ↔ GivenBy entries e := by
  rw [GivenBy, ofDocument, tagKey, name_eq]
  cases htag : Entries.get? entries "type" with
  | none => simp
  | some tag =>
    simp only [bind_eq_ok_iff, exists_draft_iff h, toKind_eq_ok_iff, Option.some.injEq]
    constructor
    · rintro ⟨kind, rfl, rfl, hfields⟩
      exact ⟨rfl, hfields⟩
    · rintro ⟨rfl, hfields⟩
      exact ⟨_, rfl, rfl, hfields⟩

/-! ## Lists -/

/-- The keys of a kind in the order in which a list has their values. -/
def keysOf : NoticeKind → List String
  | .enqueued => ["identifier", "queue_len", "timestamp"]
  | .started | .ended => ["session_id", "identifier", "timestamp"]
  | .errored => ["session_id", "identifier", "reason", "timestamp"]
  | .skipRequested | .idle => ["timestamp"]
  | .linkChanged => ["generation", "state", "timestamp"]

theorem keys_fieldsOf (kind : NoticeKind) : (fieldsOf kind).map RecordField.key = keysOf kind := by
  cases kind <;> rfl

/-- Items are read like the entries that have them under the keys of the fields. -/
theorem readItems_eq_ok_iff {all fields : List (RecordField Draft)} {done : Nat}
    {items : List Document} {before after : Draft}
    (hfind : ∀ field ∈ fields, RecordField.find? all field.key = some field) :
    readItems kind done fields items before = .ok after ↔
      items.length = fields.length ∧
        setEntries all ((fields.map RecordField.key).zip items) before = .ok after := by
  induction fields generalizing done items before with
  | nil => cases items <;> simp [readItems, setEntries]
  | cons field fields ih =>
    cases items with
    | nil => simp [readItems]
    | cons item items =>
      have hhere := hfind field List.mem_cons_self
      have hothers (draft : Draft) := @ih (done + 1) items draft fun f hf =>
        hfind f (List.mem_cons_of_mem _ hf)
      simp only [readItems, List.map_cons, List.zip_cons_cons, setEntries, hhere, bind_eq_ok_iff,
        hothers, List.length_cons, Nat.add_right_cancel_iff]
      constructor
      · rintro ⟨draft, hset, hlength, hread⟩
        exact ⟨hlength, draft, hset, hread⟩
      · rintro ⟨hlength, draft, hset, hread⟩
        exact ⟨draft, hset, hlength, hread⟩

/-- Each field of a kind is found under its key. -/
theorem find?_fieldsOf (kind : NoticeKind) :
    ∀ field ∈ fieldsOf kind, RecordField.find? (fieldsOf kind) field.key = some field := by
  cases kind <;> simp [fieldsOf, RecordField.find?, identifierField, queueLengthField, timeField,
    sessionField, maybeSessionField, reasonField, generationField, stateField, field]

/-- The tag is no field. -/
theorem noticeIn_cons_tag {tag : Document} {notice : Notice Uuid UInt64} :
    NoticeIn (("type", tag) :: entries) notice ↔ NoticeIn entries notice := by
  cases notice with
  | errored session =>
    cases session <;> simp [NoticeIn, MaybeSessionIn, SessionIn, Entries.get?_cons_of_ne]
  | _ => simp [NoticeIn, SessionIn, Entries.get?_cons_of_ne]

theorem timeIn_cons_tag {tag : Document} {i : Instant} :
    TimeIn (("type", tag) :: entries) i ↔ TimeIn entries i := by
  simp [TimeIn, Entries.get?_cons_of_ne]

/-- A list describes the event of the table that has its items under the keys in their order. -/
theorem ofDocument_list_eq_ok_iff {tag : Document} {items : List Document} {e : Event} :
    ofDocument (.list (tag :: items)) = .ok e ↔
      items.length = (keysOf e.notice.kind).length ∧
        GivenBy (("type", tag) :: (keysOf e.notice.kind).zip items) e := by
  have hdistinct {kind : NoticeKind} (hlength : items.length = (keysOf kind).length) :
      Entries.Distinct ((keysOf kind).zip items) := by
    rw [Entries.Distinct, List.map_fst_zip (Nat.le_of_eq hlength.symm)]
    cases kind <;> decide
  have hread {kind : NoticeKind} {draft : Draft} :
      readItems kind 0 (fieldsOf kind) items {} = .ok draft ↔
        items.length = (keysOf kind).length ∧
          setEntries (fieldsOf kind) ((keysOf kind).zip items) {} = .ok draft := by
    rw [readItems_eq_ok_iff (find?_fieldsOf kind), keys_fieldsOf, ← keys_fieldsOf, List.length_map]
  rw [GivenBy, Entries.get?_cons_self, noticeIn_cons_tag, timeIn_cons_tag, name_eq, ofDocument]
  simp only [bind_eq_ok_iff, hread, toKind_eq_ok_iff, Option.some.injEq]
  constructor
  · rintro ⟨kind, rfl, draft, ⟨hlength, hset⟩, hdraft⟩
    obtain ⟨rfl, hfields⟩ := (exists_draft_iff (hdistinct hlength)).1 ⟨draft, hset, hdraft⟩
    exact ⟨hlength, rfl, hfields⟩
  · rintro ⟨hlength, rfl, hfields⟩
    obtain ⟨draft, hset, hdraft⟩ := (exists_draft_iff (hdistinct hlength)).2 ⟨rfl, hfields⟩
    exact ⟨_, rfl, draft, ⟨hlength, hset⟩, hdraft⟩

/-! ## Times -/

/-- A time comes into a draft only from a text. -/
theorem time_of_set {part : Part Draft} (hpart : part ∈ parts kind) {d : Document}
    {before after : Draft} {i : Instant} (h : part.field.set before d = .ok after)
    (htime : after.time = some i) :
    before.time = some i ∨ ∃ text, Instant.parse text = .ok i := by
  obtain ⟨v, hdecode, rfl⟩ := Part.set_field_eq_ok_iff.1 h
  by_cases hkey : part.key = timePart.key
  · obtain rfl := List.inj_on_of_nodup_map (apart_parts kind).keys hpart (timePart_mem kind) hkey
    obtain rfl : v = some i := htime
    have hread : (toInstant d).map some = .ok (some i) := hdecode
    cases hinstant : toInstant d with
    | error e =>
      rw [hinstant] at hread
      cases hread
    | ok j =>
      rw [hinstant] at hread
      obtain ⟨text, -, hparse⟩ := toInstant_eq_ok_iff.1 hinstant
      cases hread
      exact .inr ⟨text, hparse⟩
  · exact .inl (((apart_parts kind).get_put_of_ne timePart (timePart_mem kind) part hpart
      (Ne.symm hkey) before v).symm.trans htime)

/-- This holds of whole tables, also where several entries have one key. -/
theorem time_of_setEntries {before after : Draft} {i : Instant}
    (h : setEntries (fieldsOf kind) entries before = .ok after) (htime : after.time = some i) :
    before.time = some i ∨ ∃ text, Instant.parse text = .ok i := by
  rw [fieldsOf_eq] at h
  induction entries generalizing before with
  | nil =>
    cases h
    exact .inl htime
  | cons entry entries ih =>
    rw [setEntries] at h
    split at h
    · rename_i f hfind
      obtain ⟨part, hpart, -, rfl⟩ := Part.find?_fields_eq_some hfind
      obtain ⟨draft, hset, h⟩ := bind_eq_ok_iff.1 h
      exact (ih h).elim (time_of_set hpart hset) .inr
    · exact ih h

theorem told_of_draft {e : Event} (hset : setEntries (fieldsOf kind) entries {} = .ok draft)
    (hdraft : ofDraft kind draft = .ok e) : e.time.Told := by
  obtain ⟨-, -, htime⟩ := ofDraft_eq_ok_iff.1 hdraft
  rcases time_of_setEntries hset htime with hnone | ⟨text, hparse⟩
  · cases hnone
  · exact Instant.told_of_parse hparse

/-- Whatever document describes an event, the text of its time tells which one it is. -/
theorem told_of_ofDocument {d : Document} {e : Event} (h : ofDocument d = .ok e) :
    e.time.Told := by
  cases d with
  | table entries =>
    rw [ofDocument] at h
    split at h
    · cases h
    · obtain ⟨kind, -, h⟩ := bind_eq_ok_iff.1 h
      obtain ⟨draft, hset, hdraft⟩ := bind_eq_ok_iff.1 h
      exact told_of_draft hset hdraft
  | list items =>
    cases items with
    | nil => cases h
    | cons tag items =>
      obtain ⟨kind, -, h⟩ := bind_eq_ok_iff.1 h
      obtain ⟨draft, hread, hdraft⟩ := bind_eq_ok_iff.1 h
      exact told_of_draft ((readItems_eq_ok_iff (find?_fieldsOf kind)).1 hread).2 hdraft
  | _ => cases h

end Jukebox.Event
