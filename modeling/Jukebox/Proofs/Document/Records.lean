import Jukebox.Document.Decode
import Mathlib.Data.List.Nodup

/-!
# Records, decoded part by part

A record is made of parts, each with a key, a way to decode its value and a way to put it in place.
If putting one part in place leaves the others alone (`Apart`), then decoding a table whose keys are
distinct comes down to the parts one by one: a part whose key is there has the value decoded from
it, any other has what it had before (`Apart.given_of_setEntries`), and decoding succeeds if each of
the given parts can be decoded (`Apart.exists_setEntries_iff`). Where the parts are all there is of
a record, this settles the record (`Lawful.setEntries_eq_ok_iff`). The order of the entries does not
matter, nor do keys of no part.

The values of the parts are texts, truth values, numbers, lists of texts and words of a choice. Each
is decoded from exactly one document, a word also from a table (`toText_eq_ok_iff` and so on).
-/

namespace Jukebox

namespace Document

/-! ## Values -/

variable {dialect : Dialect} {expected : String} {d : Document}

theorem toText_eq_ok_iff {s : String} : d.toText dialect = .ok s ↔ d = .string s := by
  cases d <;> simp [toText, mismatch]

theorem toFlag_eq_ok_iff {b : Bool} : d.toFlag dialect = .ok b ↔ d = .boolean b := by
  cases d <;> simp [toFlag, mismatch]

theorem toBounded_eq_ok_iff {size : Nat} {n : Fin size} :
    d.toBounded dialect size expected = .ok n ↔ d = .integer n.val := by
  cases d with
  | integer m =>
    rw [toBounded]
    split
    · rename_i h
      obtain ⟨-, hle⟩ := h
      rw [Except.ok.injEq, integer.injEq, Fin.ext_iff]
      show m.toNat = n.val ↔ m = n.val
      omega
    · rename_i h
      simp only [reduceCtorEq, integer.injEq, false_iff]
      rintro rfl
      exact h ⟨by simp, by omega⟩
  | _ => simp [toBounded, mismatch]

theorem toWord64_eq_ok_iff {n : UInt64} :
    d.toWord64 dialect expected = .ok n ↔ d = .integer n.toNat := by
  rw [toWord64, show n.toNat = n.toFin.val from rfl, ← toBounded_eq_ok_iff]
  cases d.toBounded dialect UInt64.size expected with
  | error e => simp [Except.map]
  | ok m => simp [Except.map, ← UInt64.toFin_inj]

theorem toWord32_eq_ok_iff {n : UInt32} :
    d.toWord32 dialect expected = .ok n ↔ d = .integer n.toNat := by
  rw [toWord32, show n.toNat = n.toFin.val from rfl, ← toBounded_eq_ok_iff]
  cases d.toBounded dialect UInt32.size expected with
  | error e => simp [Except.map]
  | ok m => simp [Except.map, ← UInt32.toFin_inj]

theorem mapM_toText_eq_ok_iff {items : List Document} {texts : List String} :
    items.mapM (toText dialect) = .ok texts ↔ items = texts.map .string := by
  induction items generalizing texts with
  | nil => cases texts <;> simp
  | cons item items ih =>
    rw [List.mapM_cons]
    cases texts with
    | nil =>
      cases item.toText dialect with
      | error e => simp [bind, Except.bind]
      | ok s =>
        cases items.mapM (toText dialect) <;> simp [bind, Except.bind]
    | cons text texts =>
      rw [List.map_cons, List.cons.injEq, ← ih, ← @toText_eq_ok_iff dialect]
      cases item.toText dialect with
      | error e => simp [bind, Except.bind]
      | ok s =>
        cases items.mapM (toText dialect) <;> simp [bind, Except.bind]

theorem toTexts_eq_ok_iff {texts : List String} :
    d.toTexts dialect = .ok texts ↔ d = .list (texts.map .string) := by
  cases d with
  | list items => rw [toTexts, mapM_toText_eq_ok_iff, list.injEq]
  | _ => simp [toTexts, mismatch]

/-- A word is one of the choices, of which no two have the same word. -/
theorem toVariant_eq_ok_iff {α : Type} {known : List (String × α)}
    (hknown : (known.map Prod.fst).Nodup) {name : String} {a : α} :
    toVariant known name = .ok a ↔ (name, a) ∈ known := by
  rw [toVariant]
  cases hfind : known.find? fun entry => entry.1 == name with
  | none =>
    simp only [reduceCtorEq, false_iff]
    exact fun hmem => List.find?_eq_none.1 hfind _ hmem (beq_self_eq_true name)
  | some entry =>
    have hmem := List.mem_of_find?_eq_some hfind
    have hname := List.find?_some hfind
    obtain ⟨word, value⟩ := entry
    obtain rfl : word = name := eq_of_beq hname
    constructor
    · rintro ⟨⟩
      exact hmem
    · intro ha
      cases List.inj_on_of_nodup_map hknown hmem ha rfl
      rfl

/-! ## Entries -/

namespace Entries

/-- No two entries have the same key. -/
def Distinct (entries : Entries) : Prop := (entries.map Prod.fst).Nodup

variable {key : String} {value : Document} {entries : Entries}

theorem get?_cons_self : get? ((key, value) :: entries) key = some value := by
  simp [get?]

theorem get?_cons_of_ne {other : String} (h : key ≠ other) :
    get? ((key, value) :: entries) other = entries.get? other := by
  have hne : (key == other) = false := beq_false_of_ne h
  simp [get?, hne]

theorem get?_eq_none (h : key ∉ entries.map Prod.fst) : entries.get? key = none := by
  rw [get?, Option.map_eq_none_iff, List.find?_eq_none]
  intro entry hmem heq
  exact h (List.mem_map.2 ⟨entry, hmem, eq_of_beq heq⟩)

theorem perm_insertSorted (h : key ∉ entries.map Prod.fst) :
    ((entries.insertSorted key value).map Prod.fst).Perm (key :: entries.map Prod.fst) := by
  induction entries with
  | nil => exact .refl _
  | cons entry entries ih =>
    obtain ⟨hne, hrest⟩ := List.ne_and_not_mem_of_not_mem_cons h
    rw [insertSorted, if_neg hne]
    split
    · exact .refl _
    · exact ((ih hrest).cons entry.1).trans (.swap key entry.1 _)

/-- Entries put among others in the order of their keys: the keys are those of both. -/
theorem perm_foldl_insertSorted {done : Entries}
    (h : (done.map Prod.fst ++ entries.map Prod.fst).Nodup) :
    ((entries.foldl (fun done entry => done.insertSorted entry.1 entry.2) done).map Prod.fst).Perm
      (done.map Prod.fst ++ entries.map Prod.fst) := by
  induction entries generalizing done with
  | nil => simp
  | cons entry entries ih =>
    have hmiddle := List.perm_middle.nodup_iff.1 h
    have hperm := @perm_insertSorted entry.1 entry.2 done fun hmem =>
      (List.nodup_cons.1 hmiddle).1 (List.mem_append_left _ hmem)
    have hboth := hperm.append_right (entries.map Prod.fst)
    exact (ih (hboth.nodup_iff.2 hmiddle)).trans (hboth.trans List.perm_middle.symm)

theorem Distinct.sorted (h : entries.Distinct) : entries.sorted.Distinct :=
  (@perm_foldl_insertSorted entries [] (by simpa [Distinct] using h)).nodup_iff.2 h

theorem get?_foldl_insertSorted (h : entries.Distinct) (done : Entries) :
    (entries.foldl (fun done entry => done.insertSorted entry.1 entry.2) done).get? key =
      (entries.get? key).or (done.get? key) := by
  induction entries generalizing done with
  | nil => rfl
  | cons entry entries ih =>
    obtain ⟨hfresh, hrest⟩ := List.nodup_cons.1 h
    rw [List.foldl_cons, ih hrest]
    by_cases heq : entry.1 = key
    · subst heq
      rw [get?_eq_none hfresh, get?_insertSorted_self, get?_cons_self]
      rfl
    · rw [get?_insertSorted_of_ne _ _ heq, get?_cons_of_ne heq]

/-- Among entries with keys of their own nothing is found elsewhere once they are in order. -/
theorem Distinct.get?_sorted (h : entries.Distinct) (key : String) :
    entries.sorted.get? key = entries.get? key := by
  rw [Entries.sorted, get?_foldl_insertSorted h]
  exact Option.or_none

end Entries

end Document

open Document

/-! ## Parts -/

/-- A part of a record. -/
structure Part (α : Type) where
  key : String
  Value : Type
  get : α → Value
  put : α → Value → α
  decode : Document → Decoded Value

namespace Part

variable {α : Type}

/-- The field of a record for a part. -/
def field (part : Part α) : RecordField α :=
  ⟨part.key, fun a d => do return part.put a (← part.decode d)⟩

/-- The part has the value that the entries give, or else the one it had before. -/
def Given (part : Part α) (entries : Entries) (before after : α) : Prop :=
  match entries.get? part.key with
  | none => part.get after = part.get before
  | some d => part.decode d = .ok (part.get after)

/-- The parts have keys of their own and do not touch each other. -/
structure Apart (parts : List (Part α)) : Prop where
  keys : (parts.map key).Nodup
  get_put : ∀ part ∈ parts, ∀ a v, part.get (part.put a v) = v
  get_put_of_ne : ∀ part ∈ parts, ∀ other ∈ parts, part.key ≠ other.key →
    ∀ a v, part.get (other.put a v) = part.get a

/-- The parts are apart, and all there is. -/
structure Lawful (parts : List (Part α)) : Prop extends Apart parts where
  ext : ∀ a b, (∀ part ∈ parts, part.get a = part.get b) → a = b

variable {parts : List (Part α)} {entries : Entries} {part : Part α} {key : String}
  {d : Document} {before after : α}

theorem set_field (part : Part α) (a : α) (d : Document) :
    part.field.set a d = (part.decode d).map (part.put a) := by
  show (part.decode d >>= fun v => pure (part.put a v)) = _
  cases part.decode d <;> rfl

theorem set_field_eq_ok_iff {a b : α} :
    part.field.set a d = .ok b ↔ ∃ v, part.decode d = .ok v ∧ part.put a v = b := by
  rw [set_field]
  cases part.decode d <;> simp [Except.map]

theorem find?_fields_eq_some {f : RecordField α}
    (h : RecordField.find? (parts.map field) key = some f) :
    ∃ part ∈ parts, part.key = key ∧ part.field = f := by
  have hmem := List.mem_of_find?_eq_some h
  have hkey := List.find?_some h
  obtain ⟨part, hpart, rfl⟩ := List.mem_map.1 hmem
  exact ⟨part, hpart, eq_of_beq hkey, rfl⟩

theorem find?_fields_eq_none (h : RecordField.find? (parts.map field) key = none) :
    ∀ part ∈ parts, part.key ≠ key := by
  intro part hpart heq
  have hnone := List.find?_eq_none.1 h part.field (List.mem_map_of_mem hpart)
  exact hnone (beq_iff_eq.2 heq)

theorem given_cons_of_ne (h : part.key ≠ key) :
    part.Given ((key, d) :: entries) before after ↔ part.Given entries before after := by
  rw [Given, Given, Entries.get?_cons_of_ne h.symm]

/-- An entry for a part gives that part its value; to the entries behind it the record has the part
in place. -/
theorem Apart.given_cons (h : Apart parts) (hpart : part ∈ parts)
    (habsent : entries.get? part.key = none) {v : part.Value} (hdecode : part.decode d = .ok v)
    (hall : ∀ other ∈ parts, other.Given entries (part.put before v) after) :
    ∀ other ∈ parts, other.Given ((part.key, d) :: entries) before after := by
  intro other hother
  by_cases heq : other.key = part.key
  · have hhere := hall part hpart
    rw [Given, habsent, h.get_put part hpart] at hhere
    rw [List.inj_on_of_nodup_map h.keys hother hpart heq, Given, Entries.get?_cons_self]
    exact hdecode.trans (congrArg Except.ok hhere.symm)
  · have helse := hall other hother
    rw [Given, h.get_put_of_ne other hother part hpart heq] at helse
    rwa [given_cons_of_ne heq, Given]

/-- Decoding a table gives every part its value, each by itself. -/
theorem Apart.given_of_setEntries (h : Apart parts) (hdistinct : entries.Distinct)
    (hset : setEntries (parts.map field) entries before = .ok after) :
    ∀ part ∈ parts, part.Given entries before after := by
  induction entries generalizing before with
  | nil =>
    cases hset
    intro part _
    rfl
  | cons entry entries ih =>
    obtain ⟨key, d⟩ := entry
    obtain ⟨hfresh, hrest⟩ := List.nodup_cons.1 hdistinct
    rw [setEntries] at hset
    cases hfind : RecordField.find? (parts.map field) key with
    | none =>
      rw [hfind] at hset
      intro part hpart
      exact (given_cons_of_ne (find?_fields_eq_none hfind part hpart)).2 (ih hrest hset part hpart)
    | some f =>
      obtain ⟨part, hpart, rfl, rfl⟩ := find?_fields_eq_some hfind
      simp only [hfind, set_field] at hset
      cases hdecode : part.decode d with
      | error e =>
        rw [hdecode] at hset
        cases hset
      | ok v =>
        rw [hdecode] at hset
        exact h.given_cons hpart (Entries.get?_eq_none hfresh) hdecode (ih hrest hset)

/-- A table can be decoded if each of its entries can. -/
theorem Apart.exists_setEntries_iff (h : Apart parts) (hdistinct : entries.Distinct) :
    (∃ after, setEntries (parts.map field) entries before = .ok after) ↔
      ∀ part ∈ parts, ∀ d, entries.get? part.key = some d → ∃ v, part.decode d = .ok v := by
  induction entries generalizing before with
  | nil => exact iff_of_true ⟨before, rfl⟩ (by simp [Entries.get?])
  | cons entry entries ih =>
    obtain ⟨key, d⟩ := entry
    obtain ⟨hfresh, hrest⟩ := List.nodup_cons.1 hdistinct
    rw [setEntries]
    cases hfind : RecordField.find? (parts.map field) key with
    | none =>
      refine (ih hrest).trans (forall₂_congr fun part hpart => ?_)
      rw [Entries.get?_cons_of_ne (find?_fields_eq_none hfind part hpart).symm]
    | some f =>
      obtain ⟨part, hpart, rfl, rfl⟩ := find?_fields_eq_some hfind
      have hhere : Entries.get? ((part.key, d) :: entries) part.key = some d :=
        Entries.get?_cons_self
      simp only [set_field]
      cases hdecode : part.decode d with
      | error e =>
        refine iff_of_false (by simp [Except.map, bind, Except.bind]) fun hall => ?_
        obtain ⟨v, hv⟩ := hall part hpart d hhere
        exact absurd (hdecode.symm.trans hv) (by simp)
      | ok v =>
        simp only [Except.map, Decoded.ok_bind]
        rw [ih hrest]
        refine forall₂_congr fun other hother => ?_
        by_cases heq : other.key = part.key
        · rw [List.inj_on_of_nodup_map h.keys hother hpart heq, hhere, Entries.get?_eq_none hfresh]
          simp [hdecode]
        · rw [Entries.get?_cons_of_ne (Ne.symm heq)]

/-- Where the parts are all there is, they settle what is decoded. -/
theorem Lawful.setEntries_eq_ok_iff (h : Lawful parts) (hdistinct : entries.Distinct) :
    setEntries (parts.map field) entries before = .ok after ↔
      ∀ part ∈ parts, part.Given entries before after := by
  refine ⟨h.given_of_setEntries hdistinct, fun hall => ?_⟩
  have hdecodes : ∀ part ∈ parts, ∀ d, entries.get? part.key = some d →
      ∃ v, part.decode d = .ok v := by
    intro part hpart d hd
    have hgiven := hall part hpart
    rw [Given, hd] at hgiven
    exact ⟨_, hgiven⟩
  obtain ⟨other, hother⟩ := (h.exists_setEntries_iff hdistinct).2 hdecodes
  rw [hother]
  refine congrArg Except.ok (h.ext other after fun part hpart => ?_)
  have hgiven := hall part hpart
  have hotherwise := h.given_of_setEntries hdistinct hother part hpart
  rw [Given] at hgiven hotherwise
  split at hgiven <;> rename_i hget <;> rw [hget] at hotherwise
  · exact hotherwise.trans hgiven.symm
  · exact Except.ok.inj (hotherwise.symm.trans hgiven)

end Part

end Jukebox
