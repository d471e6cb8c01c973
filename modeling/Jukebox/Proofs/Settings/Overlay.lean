import Jukebox.Proofs.Document.Json.Values
import Jukebox.Proofs.Document.Records
import Jukebox.Settings.Codec
import Mathlib.Tactic.MkIffOfInductiveProp

/-!
# Settings as an overlay

A document of settings is an overlay on the defaults (`decoded_as_overlay`). It can be decoded
exactly if everything in it that a setting is made of has the type of that setting; keys of no
setting do not matter. What comes out has the given value wherever one is given and the default
elsewhere, in every section by itself, so a section that is absent, one that is empty and one that
spells out its defaults are the same. Settings that were written are read back.

Each section is a record with lawful parts, and so are the settings as a whole, with the sections as
parts: both levels are cases of `Part.Lawful.setEntries_eq_ok_iff`.
-/

namespace Jukebox

open Document

/-! ## Types and values -/

namespace Document

/-- A text. -/
def IsText (d : Document) : Prop := ∃ s, d = .string s

/-- A truth value. -/
def IsFlag (d : Document) : Prop := ∃ b, d = .boolean b

/-- A natural number of so many bits. -/
def IsWord (bits : Nat) (d : Document) : Prop := ∃ n : Nat, n < 2 ^ bits ∧ d = .integer n

/-- A list of texts. -/
def AreTexts (d : Document) : Prop := ∃ texts : List String, d = .list (texts.map .string)

/-- The word for a backend. -/
def IsBackend (d : Document) : Prop := d = .string "process" ∨ d = .string "dry-run"

variable {dialect : Dialect} {expected : String} {d : Document}

theorem exists_toText_iff : (∃ s, d.toText dialect = .ok s) ↔ d.IsText := by
  simp only [toText_eq_ok_iff, IsText]

theorem exists_toFlag_iff : (∃ b, d.toFlag dialect = .ok b) ↔ d.IsFlag := by
  simp only [toFlag_eq_ok_iff, IsFlag]

theorem exists_toTexts_iff : (∃ texts, d.toTexts dialect = .ok texts) ↔ d.AreTexts := by
  simp only [toTexts_eq_ok_iff, AreTexts]

theorem exists_toWord64_iff : (∃ n, d.toWord64 dialect expected = .ok n) ↔ d.IsWord 64 := by
  simp only [toWord64_eq_ok_iff]
  constructor
  · rintro ⟨n, rfl⟩
    exact ⟨n.toNat, n.toNat_lt, rfl⟩
  · rintro ⟨n, hn, rfl⟩
    exact ⟨.ofNat n, by rw [UInt64.toNat_ofNat_of_lt' hn]⟩

theorem exists_toWord32_iff : (∃ n, d.toWord32 dialect expected = .ok n) ↔ d.IsWord 32 := by
  simp only [toWord32_eq_ok_iff]
  constructor
  · rintro ⟨n, rfl⟩
    exact ⟨n.toNat, n.toNat_lt, rfl⟩
  · rintro ⟨n, hn, rfl⟩
    exact ⟨.ofNat n, by rw [UInt32.toNat_ofNat_of_lt' hn]⟩

theorem toChoice_word_eq_ok_iff {word : String} {backend : Backend} :
    (Document.string word).toChoice dialect Backend.names = .ok backend ↔
      Document.string word = .string backend.name := by
  rw [string.injEq, toChoice, toVariant_eq_ok_iff (by decide)]
  cases backend <;> simp [Backend.names, Backend.name]

theorem exists_toChoice_word_iff {word : String} :
    (∃ backend, (Document.string word).toChoice dialect Backend.names = .ok backend) ↔
      (Document.string word).IsBackend := by
  simp only [toChoice_word_eq_ok_iff, IsBackend]
  constructor
  · rintro ⟨_ | _, hname⟩
    · exact .inl hname
    · exact .inr hname
  · rintro (hname | hname)
    · exact ⟨.process, hname⟩
    · exact ⟨.dryRun, hname⟩

namespace Entries

/-- The value given under a key, or the default if there is none. -/
def Overlay {β : Type} (entries : Entries) (key : String) (encode : β → Document)
    (default value : β) : Prop :=
  match entries.get? key with
  | none => value = default
  | some d => d = encode value

/-- Whatever is given under one of the keys has the type that goes with the key. -/
def WellTyped (entries : Entries) (types : List (String × (Document → Prop))) : Prop :=
  ∀ type ∈ types, ∀ d, entries.get? type.1 = some d → type.2 d

/-- The entries of the table under a key; none if nothing is there. -/
def below (entries : Entries) (key : String) : Entries :=
  match entries.get? key with
  | some (.table inner) => inner
  | _ => []

/-- What is given under a key, if anything is, is a table with keys of its own. -/
def HasTable (entries : Entries) (key : String) : Prop :=
  ∀ d, entries.get? key = some d → ∃ inner : Entries, d = .table inner ∧ inner.Distinct

theorem HasTable.distinct {entries : Entries} {key : String} (h : entries.HasTable key) :
    (entries.below key).Distinct := by
  rw [below]
  cases hget : entries.get? key with
  | none => exact List.nodup_nil
  | some d =>
    obtain ⟨inner, rfl, hinner⟩ := h d hget
    exact hinner

/-- A section can be decoded if the table under its key can. -/
theorem HasTable.decodes_iff {β : Type} {entries : Entries} {key : String}
    (h : entries.HasTable key) (decode : Document → Decoded β)
    (hempty : ∃ v, decode (.table []) = .ok v) :
    (∀ d, entries.get? key = some d → ∃ v, decode d = .ok v) ↔
      ∃ v, decode (.table (entries.below key)) = .ok v := by
  rw [below]
  cases hget : entries.get? key with
  | none => simpa using hempty
  | some d =>
    obtain ⟨inner, rfl, -⟩ := h d hget
    simp

end Entries

end Document

namespace Part

variable {α : Type} {part : Part α} {entries : Entries} {before after : α}

/-- A part with one document for each value is overlaid. -/
theorem given_iff_overlay {encode : part.Value → Document}
    (hdecode : ∀ d, entries.get? part.key = some d → ∀ v, part.decode d = .ok v ↔ d = encode v) :
    part.Given entries before after ↔
      entries.Overlay part.key encode (part.get before) (part.get after) := by
  rw [Given, Entries.Overlay]
  cases hget : entries.get? part.key with
  | none => exact Iff.rfl
  | some d => exact hdecode d hget _

/-- The part that is a section comes from the table under its key. -/
theorem given_iff_below (htable : entries.HasTable part.key)
    (hbase : part.decode (.table []) = .ok (part.get before)) :
    part.Given entries before after ↔
      part.decode (.table (entries.below part.key)) = .ok (part.get after) := by
  rw [Given, Entries.below]
  cases hget : entries.get? part.key with
  | none =>
    rw [hbase, Except.ok.injEq]
    exact eq_comm
  | some d =>
    obtain ⟨inner, rfl, -⟩ := htable d hget
    exact Iff.rfl

end Part

variable {dialect : Dialect} {entries : Entries}

/-! ## The sections -/

namespace PollSettings

/-- The section has the values that the entries give, and the defaults elsewhere. -/
@[mk_iff]
structure Overlaid (entries : Entries) (s : PollSettings) : Prop where
  healthMs : entries.Overlay "health_interval_ms" (fun n => .integer n.toNat) 3000 s.healthMs
  playbackMs : entries.Overlay "playback_interval_ms" (fun n => .integer n.toNat) 1000 s.playbackMs

/-- The types of the values in the section. -/
def types : List (String × (Document → Prop)) :=
  [("health_interval_ms", IsWord 64), ("playback_interval_ms", IsWord 64)]

/-- The parts of the section. -/
def parts (dialect : Dialect) : List (Part PollSettings) :=
  [ ⟨"health_interval_ms", UInt64, healthMs, fun s v => { s with healthMs := v },
      toWord64 dialect "u64"⟩,
    ⟨"playback_interval_ms", UInt64, playbackMs, fun s v => { s with playbackMs := v },
      toWord64 dialect "u64"⟩ ]

theorem lawful_parts : Part.Lawful (parts dialect) where
  keys := by simp [parts]
  get_put := by simp [parts]
  get_put_of_ne := by simp [parts]
  ext s t h := by
    cases s
    cases t
    simpa [parts] using h

theorem ofDocument_eq_ok_iff (hdistinct : entries.Distinct) {s : PollSettings} :
    ofDocument dialect (.table entries) = .ok s ↔ Overlaid entries s := by
  refine (lawful_parts.setEntries_eq_ok_iff hdistinct).trans ?_
  simp only [parts, List.forall_mem_cons, List.not_mem_nil, false_imp_iff, implies_true, and_true,
    overlaid_iff]
  exact and_congr (Part.given_iff_overlay fun _ _ _ => toWord64_eq_ok_iff)
    (Part.given_iff_overlay fun _ _ _ => toWord64_eq_ok_iff)

theorem exists_ofDocument_iff (hdistinct : entries.Distinct) :
    (∃ s, ofDocument dialect (.table entries) = .ok s) ↔ entries.WellTyped types := by
  refine (lawful_parts.exists_setEntries_iff hdistinct).trans ?_
  simp only [parts, types, Entries.WellTyped, List.forall_mem_cons, exists_toWord64_iff,
    List.not_mem_nil, false_imp_iff, implies_true]

end PollSettings

namespace WidgetSettings

/-- The section has the values that the entries give, and the defaults elsewhere. -/
@[mk_iff]
structure Overlaid (entries : Entries) (s : WidgetSettings) : Prop where
  backend : entries.Overlay "backend" (fun b => .string b.name) .process s.backend
  anchor : entries.Overlay "anchor" .string "yt" s.anchor
  width : entries.Overlay "width" (fun n => .integer n.toNat) 640 s.width
  height : entries.Overlay "height" (fun n => .integer n.toNat) 390 s.height
  command : entries.Overlay "command" .string "mpv" s.command
  args : entries.Overlay "args" (fun texts => .list (texts.map .string)) ({} : WidgetSettings).args
    s.args
  urlTemplate : entries.Overlay "url_template" .string
    "https://www.youtube.com/watch?v=\x7bid\x7d" s.urlTemplate
  dryRunMs : entries.Overlay "dry_run_ms" (fun n => .integer n.toNat) 3000 s.dryRunMs

/-- The types of the values in the section. -/
def types : List (String × (Document → Prop)) :=
  [ ("backend", IsBackend), ("anchor", IsText), ("width", IsWord 32), ("height", IsWord 32),
    ("command", IsText), ("args", AreTexts), ("url_template", IsText), ("dry_run_ms", IsWord 64) ]

/-- The parts of the section. -/
def parts (dialect : Dialect) : List (Part WidgetSettings) :=
  [ ⟨"backend", Backend, backend, fun s v => { s with backend := v },
      toChoice dialect Backend.names⟩,
    ⟨"anchor", String, anchor, fun s v => { s with anchor := v }, toText dialect⟩,
    ⟨"width", UInt32, width, fun s v => { s with width := v }, toWord32 dialect "u32"⟩,
    ⟨"height", UInt32, height, fun s v => { s with height := v }, toWord32 dialect "u32"⟩,
    ⟨"command", String, command, fun s v => { s with command := v }, toText dialect⟩,
    ⟨"args", List String, args, fun s v => { s with args := v }, toTexts dialect⟩,
    ⟨"url_template", String, urlTemplate, fun s v => { s with urlTemplate := v }, toText dialect⟩,
    ⟨"dry_run_ms", UInt64, dryRunMs, fun s v => { s with dryRunMs := v }, toWord64 dialect "u64"⟩ ]

theorem lawful_parts : Part.Lawful (parts dialect) where
  keys := by simp [parts]
  get_put := by simp [parts]
  get_put_of_ne := by simp [parts]
  ext s t h := by
    cases s
    cases t
    simpa [parts] using h

theorem ofDocument_eq_ok_iff (hdistinct : entries.Distinct)
    (hword : ∀ d, entries.get? "backend" = some d → ∃ word, d = .string word) {s : WidgetSettings} :
    ofDocument dialect (.table entries) = .ok s ↔ Overlaid entries s := by
  have hbackend (d : Document) (hget : entries.get? "backend" = some d) (backend : Backend) :
      d.toChoice dialect Backend.names = .ok backend ↔ d = .string backend.name := by
    obtain ⟨word, rfl⟩ := hword d hget
    exact toChoice_word_eq_ok_iff
  refine (lawful_parts.setEntries_eq_ok_iff hdistinct).trans ?_
  simp only [parts, List.forall_mem_cons, List.not_mem_nil, false_imp_iff, implies_true, and_true,
    overlaid_iff]
  refine and_congr (Part.given_iff_overlay hbackend) <|
    and_congr (Part.given_iff_overlay fun _ _ _ => toText_eq_ok_iff) <|
    and_congr (Part.given_iff_overlay fun _ _ _ => toWord32_eq_ok_iff) <|
    and_congr (Part.given_iff_overlay fun _ _ _ => toWord32_eq_ok_iff) <|
    and_congr (Part.given_iff_overlay fun _ _ _ => toText_eq_ok_iff) <|
    and_congr (Part.given_iff_overlay fun _ _ _ => toTexts_eq_ok_iff) <|
    and_congr (Part.given_iff_overlay fun _ _ _ => toText_eq_ok_iff)
      (Part.given_iff_overlay fun _ _ _ => toWord64_eq_ok_iff)

theorem exists_ofDocument_iff (hdistinct : entries.Distinct)
    (hword : ∀ d, entries.get? "backend" = some d → ∃ word, d = .string word) :
    (∃ s, ofDocument dialect (.table entries) = .ok s) ↔ entries.WellTyped types := by
  have hbackend : (∀ d, entries.get? "backend" = some d →
      ∃ backend, d.toChoice dialect Backend.names = .ok backend) ↔
        ∀ d, entries.get? "backend" = some d → d.IsBackend := by
    refine forall₂_congr fun d hget => ?_
    obtain ⟨word, rfl⟩ := hword d hget
    exact exists_toChoice_word_iff
  refine (lawful_parts.exists_setEntries_iff hdistinct).trans ?_
  simp only [parts, types, Entries.WellTyped, List.forall_mem_cons, exists_toText_iff,
    exists_toTexts_iff, exists_toWord32_iff, exists_toWord64_iff, hbackend, List.not_mem_nil,
    false_imp_iff, implies_true]

end WidgetSettings

namespace LoggingSettings

/-- The section has the value that the entries give, or the default. -/
@[mk_iff]
structure Overlaid (entries : Entries) (s : LoggingSettings) : Prop where
  level : entries.Overlay "level" .string "info" s.level

/-- The type of the value in the section. -/
def types : List (String × (Document → Prop)) := [("level", IsText)]

/-- The part of the section. -/
def parts (dialect : Dialect) : List (Part LoggingSettings) :=
  [⟨"level", String, level, fun s v => { s with level := v }, toText dialect⟩]

theorem lawful_parts : Part.Lawful (parts dialect) where
  keys := by simp [parts]
  get_put := by simp [parts]
  get_put_of_ne := by simp [parts]
  ext s t h := by
    cases s
    cases t
    simpa [parts] using h

theorem ofDocument_eq_ok_iff (hdistinct : entries.Distinct) {s : LoggingSettings} :
    ofDocument dialect (.table entries) = .ok s ↔ Overlaid entries s := by
  refine (lawful_parts.setEntries_eq_ok_iff hdistinct).trans ?_
  simp only [parts, List.forall_mem_singleton, overlaid_iff]
  exact Part.given_iff_overlay fun _ _ _ => toText_eq_ok_iff

theorem exists_ofDocument_iff (hdistinct : entries.Distinct) :
    (∃ s, ofDocument dialect (.table entries) = .ok s) ↔ entries.WellTyped types := by
  refine (lawful_parts.exists_setEntries_iff hdistinct).trans ?_
  simp only [parts, types, Entries.WellTyped, List.forall_mem_singleton, exists_toText_iff]

end LoggingSettings

namespace StatusSettings

/-- The section has the values that the entries give, and the defaults elsewhere. -/
@[mk_iff]
structure Overlaid (entries : Entries) (s : StatusSettings) : Prop where
  enabled : entries.Overlay "enabled" .boolean false s.enabled
  bind : entries.Overlay "bind" .string "127.0.0.1:5790" s.bind

/-- The types of the values in the section. -/
def types : List (String × (Document → Prop)) := [("enabled", IsFlag), ("bind", IsText)]

/-- The parts of the section. -/
def parts (dialect : Dialect) : List (Part StatusSettings) :=
  [ ⟨"enabled", Bool, enabled, fun s v => { s with enabled := v }, toFlag dialect⟩,
    ⟨"bind", String, bind, fun s v => { s with bind := v }, toText dialect⟩ ]

theorem lawful_parts : Part.Lawful (parts dialect) where
  keys := by simp [parts]
  get_put := by simp [parts]
  get_put_of_ne := by simp [parts]
  ext s t h := by
    cases s
    cases t
    simpa [parts] using h

theorem ofDocument_eq_ok_iff (hdistinct : entries.Distinct) {s : StatusSettings} :
    ofDocument dialect (.table entries) = .ok s ↔ Overlaid entries s := by
  refine (lawful_parts.setEntries_eq_ok_iff hdistinct).trans ?_
  simp only [parts, List.forall_mem_cons, List.not_mem_nil, false_imp_iff, implies_true, and_true,
    overlaid_iff]
  exact and_congr (Part.given_iff_overlay fun _ _ _ => toFlag_eq_ok_iff)
    (Part.given_iff_overlay fun _ _ _ => toText_eq_ok_iff)

theorem exists_ofDocument_iff (hdistinct : entries.Distinct) :
    (∃ s, ofDocument dialect (.table entries) = .ok s) ↔ entries.WellTyped types := by
  refine (lawful_parts.exists_setEntries_iff hdistinct).trans ?_
  simp only [parts, types, Entries.WellTyped, List.forall_mem_cons, exists_toText_iff,
    exists_toFlag_iff, List.not_mem_nil, false_imp_iff, implies_true]

end StatusSettings

/-! ## All settings -/

namespace Settings

/-- A document of settings as far as its outline goes: all keys are distinct, a section that is
there is a table, and a backend that is there is a word. -/
structure Outlined (entries : Entries) : Prop where
  distinct : entries.Distinct
  poll : entries.HasTable "poll"
  widget : entries.HasTable "widget"
  logging : entries.HasTable "logging"
  status : entries.HasTable "status"
  backend : ∀ d, (entries.below "widget").get? "backend" = some d → ∃ word, d = .string word

/-- The settings have the values that the entries give, and the defaults elsewhere, section by
section. -/
@[mk_iff]
structure Overlaid (entries : Entries) (s : Settings) : Prop where
  endpoint : entries.Overlay "endpoint" .string "ws://localhost:9999" s.endpoint
  poll : s.poll.Overlaid (entries.below "poll")
  widget : s.widget.Overlaid (entries.below "widget")
  logging : s.logging.Overlaid (entries.below "logging")
  status : s.status.Overlaid (entries.below "status")

/-- What is given in each section, and for the endpoint, has its type. -/
@[mk_iff]
structure WellTyped (entries : Entries) : Prop where
  endpoint : entries.WellTyped [("endpoint", IsText)]
  poll : (entries.below "poll").WellTyped PollSettings.types
  widget : (entries.below "widget").WellTyped WidgetSettings.types
  logging : (entries.below "logging").WellTyped LoggingSettings.types
  status : (entries.below "status").WellTyped StatusSettings.types

/-- The sections that spell out their defaults. -/
def defaultSections : List (String × Document) :=
  [ ("poll", PollSettings.toDocument {}), ("widget", WidgetSettings.toDocument {}),
    ("logging", LoggingSettings.toDocument {}), ("status", StatusSettings.toDocument {}) ]

/-- The parts of the settings. -/
def parts (dialect : Dialect) : List (Part Settings) :=
  [ ⟨"endpoint", String, endpoint, fun s v => { s with endpoint := v }, toText dialect⟩,
    ⟨"poll", PollSettings, poll, fun s v => { s with poll := v }, PollSettings.ofDocument dialect⟩,
    ⟨"widget", WidgetSettings, widget, fun s v => { s with widget := v },
      WidgetSettings.ofDocument dialect⟩,
    ⟨"logging", LoggingSettings, logging, fun s v => { s with logging := v },
      LoggingSettings.ofDocument dialect⟩,
    ⟨"status", StatusSettings, status, fun s v => { s with status := v },
      StatusSettings.ofDocument dialect⟩ ]

theorem lawful_parts : Part.Lawful (parts dialect) where
  keys := by simp [parts]
  get_put := by simp [parts]
  get_put_of_ne := by simp [parts]
  ext s t h := by
    cases s
    cases t
    simpa [parts] using h

variable {s : Settings}

theorem ofDocument_eq_ok_iff (h : Outlined entries) :
    ofDocument dialect (.table entries) = .ok s ↔ Overlaid entries s := by
  refine (lawful_parts.setEntries_eq_ok_iff h.distinct).trans ?_
  simp only [parts, List.forall_mem_cons, List.not_mem_nil, false_imp_iff, implies_true, and_true,
    overlaid_iff]
  refine and_congr (Part.given_iff_overlay fun _ _ _ => toText_eq_ok_iff) <|
    and_congr ((Part.given_iff_below h.poll rfl).trans ?_) <|
    and_congr ((Part.given_iff_below h.widget rfl).trans ?_) <|
    and_congr ((Part.given_iff_below h.logging rfl).trans ?_)
      ((Part.given_iff_below h.status rfl).trans ?_)
  · exact PollSettings.ofDocument_eq_ok_iff h.poll.distinct
  · exact WidgetSettings.ofDocument_eq_ok_iff h.widget.distinct h.backend
  · exact LoggingSettings.ofDocument_eq_ok_iff h.logging.distinct
  · exact StatusSettings.ofDocument_eq_ok_iff h.status.distinct

theorem exists_ofDocument_iff (h : Outlined entries) :
    (∃ s, ofDocument dialect (.table entries) = .ok s) ↔ WellTyped entries := by
  refine (lawful_parts.exists_setEntries_iff h.distinct).trans ?_
  simp only [parts, List.forall_mem_cons, List.not_mem_nil, false_imp_iff, implies_true, and_true,
    wellTyped_iff]
  refine and_congr (by simp [Entries.WellTyped, exists_toText_iff]) <|
    and_congr ((h.poll.decodes_iff (PollSettings.ofDocument dialect) ⟨_, rfl⟩).trans ?_) <|
    and_congr ((h.widget.decodes_iff (WidgetSettings.ofDocument dialect) ⟨_, rfl⟩).trans ?_) <|
    and_congr ((h.logging.decodes_iff (LoggingSettings.ofDocument dialect) ⟨_, rfl⟩).trans ?_)
      ((h.status.decodes_iff (StatusSettings.ofDocument dialect) ⟨_, rfl⟩).trans ?_)
  · exact PollSettings.exists_ofDocument_iff h.poll.distinct
  · exact WidgetSettings.exists_ofDocument_iff h.widget.distinct h.backend
  · exact LoggingSettings.exists_ofDocument_iff h.logging.distinct
  · exact StatusSettings.exists_ofDocument_iff h.status.distinct

/-- Under a key there is nothing, an empty table, or one that spells out the defaults. -/
def Unsaid (entries : Entries) (key : String) (defaults : Document) : Prop :=
  entries.get? key = none ∨ entries.get? key = some (.table []) ∨ entries.get? key = some defaults

/-- A section that gives nothing but defaults decodes to them, however it is written. -/
theorem given_iff_of_unsaid {part : Part Settings} (hpart : part ∈ parts dialect)
    {defaults : Document}
    (hmem : (part.key, defaults) ∈ defaultSections) (h : Unsaid entries part.key defaults) :
    part.Given entries {} s ↔ part.get s = part.get {} := by
  have hempty : part.decode (.table []) = .ok (part.get {}) ∧
      part.decode defaults = .ok (part.get {}) := by
    simp only [parts, List.mem_cons, List.not_mem_nil, or_false] at hpart
    rcases hpart with rfl | rfl | rfl | rfl | rfl <;> simp [defaultSections] at hmem <;>
      subst hmem <;> exact ⟨rfl, rfl⟩
  rw [Part.Given]
  rcases h with hget | hget | hget <;> rw [hget]
  · simp only [hempty.1, Except.ok.injEq]
    exact eq_comm
  · simp only [hempty.2, Except.ok.injEq]
    exact eq_comm

/-- Documents that differ only in how a section leaves its defaults are decoded alike. -/
theorem ofDocument_congr_of_unsaid {others : Entries} (hdistinct : entries.Distinct)
    (hothers : others.Distinct) {key : String} {defaults : Document}
    (hmem : (key, defaults) ∈ defaultSections) (h : Unsaid entries key defaults)
    (h' : Unsaid others key defaults)
    (hsame : ∀ other, other ≠ key → others.get? other = entries.get? other) :
    ofDocument dialect (.table others) = .ok s ↔ ofDocument dialect (.table entries) = .ok s := by
  refine (lawful_parts.setEntries_eq_ok_iff hothers).trans <|
    (forall₂_congr fun part hpart => ?_).trans (lawful_parts.setEntries_eq_ok_iff hdistinct).symm
  by_cases hkey : part.key = key
  · subst hkey
    rw [given_iff_of_unsaid hpart hmem h, given_iff_of_unsaid hpart hmem h']
  · rw [Part.Given, Part.Given, hsame part.key hkey]

end Settings

/-! ## Settings, written and read -/

/-- The document is a table that tells what the settings in a section are. -/
def Tells {α : Type} (overlaid : Entries → α → Prop) (s : α) (d : Document) : Prop :=
  ∃ entries : Entries, d = .table entries ∧ entries.Distinct ∧ overlaid entries s

/-- A table tells the same when its entries are put in order. -/
theorem Tells.settled {α : Type} {overlaid : Entries → α → Prop} {s : α}
    (hdistinct : entries.Distinct)
    (hover : overlaid entries s) (hsettled : Json.settled (.table entries) = .table entries.sorted)
    (hcongr : ∀ {others : Entries}, (∀ key, others.get? key = entries.get? key) →
      overlaid entries s → overlaid others s) :
    Tells overlaid s (.table entries) ∧ Tells overlaid s (Json.settled (.table entries)) :=
  ⟨⟨_, rfl, hdistinct, hover⟩,
    ⟨_, hsettled, hdistinct.sorted, hcongr hdistinct.get?_sorted hover⟩⟩

/-- What is found among entries is all that the value of a key depends on. -/
theorem Document.Entries.overlay_congr {β : Type} {others : Entries}
    (hsame : ∀ key, others.get? key = entries.get? key) {key : String} {encode : β → Document}
    {default value : β} :
    others.Overlay key encode default value ↔ entries.Overlay key encode default value := by
  rw [Overlay, Overlay, hsame]

theorem Document.Entries.below_congr {others : Entries}
    (hsame : ∀ key, others.get? key = entries.get? key) (key : String) :
    others.below key = entries.below key := by
  rw [below, below, hsame]

theorem Json.settledItems_map_string (texts : List String) :
    Json.settledItems (texts.map .string) = texts.map .string := by
  induction texts with
  | nil => rfl
  | cons text texts ih => simp [Json.settledItems, Json.settled, ih]

namespace PollSettings

theorem tells_toDocument (s : PollSettings) :
    Tells Overlaid s s.toDocument ∧ Tells Overlaid s (Json.settled s.toDocument) := by
  refine Tells.settled (by simp [Entries.Distinct]) ⟨rfl, rfl⟩ rfl fun hsame h => ?_
  exact (overlaid_iff _ _).2 (by simpa only [overlaid_iff, Entries.overlay_congr hsame] using h)

end PollSettings

namespace WidgetSettings

theorem tells_toDocument (s : WidgetSettings) :
    Tells Overlaid s s.toDocument ∧ Tells Overlaid s (Json.settled s.toDocument) := by
  -- here a list is inside, so putting the table in order has to be seen to leave it alone
  refine Tells.settled (by simp [Entries.Distinct]) ⟨rfl, rfl, rfl, rfl, rfl, rfl, rfl, rfl⟩
    (by simp [Json.settled, Json.settledEntries, Json.settledItems_map_string]) fun hsame h => ?_
  exact (overlaid_iff _ _).2 (by simpa only [overlaid_iff, Entries.overlay_congr hsame] using h)

end WidgetSettings

namespace LoggingSettings

theorem tells_toDocument (s : LoggingSettings) :
    Tells Overlaid s s.toDocument ∧ Tells Overlaid s (Json.settled s.toDocument) := by
  refine Tells.settled (by simp [Entries.Distinct]) ⟨rfl⟩ rfl fun hsame h => ?_
  exact (overlaid_iff _ _).2 (by simpa only [overlaid_iff, Entries.overlay_congr hsame] using h)

end LoggingSettings

namespace StatusSettings

theorem tells_toDocument (s : StatusSettings) :
    Tells Overlaid s s.toDocument ∧ Tells Overlaid s (Json.settled s.toDocument) := by
  refine Tells.settled (by simp [Entries.Distinct]) ⟨rfl, rfl⟩ rfl fun hsame h => ?_
  exact (overlaid_iff _ _).2 (by simpa only [overlaid_iff, Entries.overlay_congr hsame] using h)

end StatusSettings

namespace Settings

/-- The settings with a document for each section. -/
def tableOf (s : Settings) (poll widget logging status : Document) : Entries :=
  [ ("endpoint", .string s.endpoint), ("poll", poll), ("widget", widget), ("logging", logging),
    ("status", status) ]

theorem distinct_tableOf (s : Settings) (poll widget logging status : Document) :
    (s.tableOf poll widget logging status).Distinct := by
  simp [Entries.Distinct, tableOf]

variable {s : Settings} {poll widget logging status : Document}

/-- Settings are read from any table that tells what they are. -/
theorem ofDocument_of_tells (hpoll : Tells PollSettings.Overlaid s.poll poll)
    (hwidget : Tells WidgetSettings.Overlaid s.widget widget)
    (hlogging : Tells LoggingSettings.Overlaid s.logging logging)
    (hstatus : Tells StatusSettings.Overlaid s.status status) (hdistinct : entries.Distinct)
    (hsame : ∀ key, entries.get? key = (s.tableOf poll widget logging status).get? key) :
    ofDocument dialect (.table entries) = .ok s := by
  obtain ⟨poll, rfl, hpoll, htellsPoll⟩ := hpoll
  obtain ⟨widget, rfl, hwidget, htellsWidget⟩ := hwidget
  obtain ⟨logging, rfl, hlogging, htellsLogging⟩ := hlogging
  obtain ⟨status, rfl, hstatus, htellsStatus⟩ := hstatus
  have htable (key : String) (inner : Entries) (hinner : inner.Distinct)
      (hget : entries.get? key = some (.table inner)) : entries.HasTable key := by
    intro d hd
    exact ⟨inner, Option.some.inj (hd.symm.trans hget), hinner⟩
  have hword (d : Document) (hget : widget.get? "backend" = some d) : ∃ word, d = .string word := by
    have hbackend := htellsWidget.backend
    rw [Entries.Overlay, hget] at hbackend
    exact ⟨_, hbackend⟩
  refine (ofDocument_eq_ok_iff ⟨hdistinct, htable _ _ hpoll (hsame _), htable _ _ hwidget (hsame _),
    htable _ _ hlogging (hsame _), htable _ _ hstatus (hsame _), ?_⟩).2 ?_
  · rw [Entries.below_congr hsame]
    exact hword
  · rw [overlaid_iff, Entries.overlay_congr hsame]
    simp only [Entries.below_congr hsame]
    exact ⟨rfl, htellsPoll, htellsWidget, htellsLogging, htellsStatus⟩

theorem ofDocument_toDocument (dialect : Dialect) (s : Settings) :
    ofDocument dialect s.toDocument = .ok s :=
  ofDocument_of_tells s.poll.tells_toDocument.1 s.widget.tells_toDocument.1
    s.logging.tells_toDocument.1 s.status.tells_toDocument.1 (distinct_tableOf s _ _ _ _)
    fun _ => rfl

theorem ofDocument_settled_toDocument (dialect : Dialect) (s : Settings) :
    ofDocument dialect (Json.settled s.toDocument) = .ok s := by
  have hdistinct := distinct_tableOf s (Json.settled s.poll.toDocument)
    (Json.settled s.widget.toDocument) (Json.settled s.logging.toDocument)
    (Json.settled s.status.toDocument)
  exact ofDocument_of_tells s.poll.tells_toDocument.2 s.widget.tells_toDocument.2
    s.logging.tells_toDocument.2 s.status.tells_toDocument.2 hdistinct.sorted hdistinct.get?_sorted

/-- The settings are written with nothing in them that JSON would not keep. -/
theorem writable_toDocument (s : Settings) : Json.Writable 127 s.toDocument := by
  have hword64 (n : UInt64) (depth : Nat) : Json.Writable depth (.integer n.toNat) :=
    .integer (by omega) (Int.ofNat_lt.2 n.toNat_lt_size)
  have hword32 (n : UInt32) (depth : Nat) : Json.Writable depth (.integer n.toNat) :=
    .integer (by omega) (Int.ofNat_lt.2 (Nat.lt_trans n.toNat_lt (by decide)))
  refine .table ?_
  simp only [List.forall_mem_cons, List.not_mem_nil, false_imp_iff, implies_true, and_true]
  have hargs : Json.Writable 125 (.list (s.widget.args.map .string)) :=
    .list (by simp [Json.Writable.string])
  refine ⟨.string _, .table ?_, .table ?_, .table ?_, .table ?_⟩ <;>
    simp [hword64, hword32, hargs, Json.Writable.string, Json.Writable.boolean]

/-! ## The main result -/

/-- A document of settings whose sections are tables, and whose backend is a word, if they are
there. It can be decoded exactly if all that settings are made of has their types; then they have
the given values, and the defaults elsewhere, section by section. If a section gives nothing but its
defaults, it does not matter whether it is absent, empty or spelled out. Settings are read back from
the document, and from the JSON text, that is written of them. -/
theorem decoded_as_overlay (dialect : Dialect) {entries : Entries} (h : Outlined entries) :
    ((∃ s, ofDocument dialect (.table entries) = .ok s) ↔ WellTyped entries) ∧
      (∀ s, ofDocument dialect (.table entries) = .ok s ↔ Overlaid entries s) ∧
      (∀ others : Entries, others.Distinct → ∀ key defaults, (key, defaults) ∈ defaultSections →
        Unsaid entries key defaults → Unsaid others key defaults →
        (∀ other, other ≠ key → others.get? other = entries.get? other) →
          ∀ s, ofDocument dialect (.table others) = .ok s ↔
            ofDocument dialect (.table entries) = .ok s) ∧
      ∀ s : Settings, ofDocument dialect s.toDocument = .ok s ∧
        (Json.parse? (Json.render s.toDocument)).map (ofDocument .json) = some (.ok s) := by
  refine ⟨exists_ofDocument_iff h, fun s => ofDocument_eq_ok_iff h, ?_, fun s => ⟨?_, ?_⟩⟩
  · intro others hothers key defaults hmem hunsaid hunsaid' hsame s
    exact ofDocument_congr_of_unsaid h.distinct hothers hmem hunsaid hunsaid' hsame
  · exact ofDocument_toDocument dialect s
  · rw [Json.parse?_render s.writable_toDocument, Option.map_some, ofDocument_settled_toDocument]

/-- The entries of a section give two of its values and a key that no setting has; an empty section
is there, and two are absent. -/
def sample : Entries :=
  [ ("volume", .float .nan),
    ("widget",
      .table [("width", .integer 1280), ("colour", .null), ("backend", .string "dry-run")]),
    ("poll", .table []) ]

theorem outlined_sample : Outlined sample where
  distinct := by simp [Entries.Distinct, sample]
  poll d hget := ⟨[], Option.some.inj (hget.symm.trans rfl), List.nodup_nil⟩
  widget d hget := ⟨_, Option.some.inj (hget.symm.trans rfl), by simp [Entries.Distinct]⟩
  logging d hget := by cases hget
  status d hget := by cases hget
  backend d hget := ⟨"dry-run", Option.some.inj (hget.symm.trans rfl)⟩

/-- The two values that are given stand; all else is as it is by default. -/
theorem decoded_sample :
    Outlined sample ∧ ofDocument .json (.table sample) =
      .ok { widget := { backend := .dryRun, width := 1280 } } :=
  ⟨outlined_sample, ((decoded_as_overlay .json outlined_sample).2.1 _).2
    { endpoint := rfl
      poll := ⟨rfl, rfl⟩
      widget := ⟨rfl, rfl, rfl, rfl, rfl, rfl, rfl, rfl⟩
      logging := ⟨rfl⟩
      status := ⟨rfl, rfl⟩ }⟩

end Settings

end Jukebox
