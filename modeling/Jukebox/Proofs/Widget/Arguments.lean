import Jukebox.Proofs.Text.Substitute
import Jukebox.Widget.Arguments

/-!
# Arguments in one pass

The placeholders of an argument are replaced in turn, while the identifier and the anchor are meant
to be put in as they are. `WidgetSettings.onePass` says what that would be: the template of the
address is put into that of the argument, and one pass replaces the placeholders of the item. The
two are not the same, since an identifier with a placeholder in it is open to what follows.

For plain settings, whose templates are made of placeholders and of text in which none begins, the
identifier decides (`argumentsFor_eq_onePass_iff`): it has to be foreign to the placeholders of an
item. The anchor may be anything, as it is put in last, and so may the width and the height, as they
are digits.
-/

namespace Jukebox

open Text

/-! ## Placeholders -/

/-- The placeholders of an item. -/
def itemPlaceholders : List (List Char) :=
  ["id", "width", "height", "anchor"].map placeholder

/-- What takes the places of the placeholders of an item. -/
def WidgetSpec.substitution (spec : WidgetSpec) : Substitution :=
  [ (placeholder "id", spec.identifier.toList),
    (placeholder "width", (toString spec.width.toNat).toList),
    (placeholder "height", (toString spec.height.toNat).toList),
    (placeholder "anchor", spec.anchor.toList) ]

theorem placeholder_ne_nil (name : String) : placeholder name ≠ [] := List.cons_ne_nil _ _

theorem foreign_placeholder {name : String} {text : List Char} (h : '\x7b' ∉ text) :
    Foreign (placeholder name) text :=
  foreign_of_not_mem h

/-- Placeholders with names of letters are separate if none is the beginning of another. -/
theorem separate_placeholders {names : List String} (hopen : ∀ name ∈ names, '\x7b' ∉ name.toList)
    (h : ∀ name ∈ names, ∀ other ∈ names, placeholder name ≠ placeholder other →
      ¬ placeholder name <+: placeholder other) :
    Separate (names.map placeholder) where
  ne_nil := by simp [placeholder_ne_nil]
  foreign := by
    intro _ hpattern _ hother hne part hpart hsuffix
    obtain ⟨name, hname, rfl⟩ := List.mem_map.1 hpattern
    obtain ⟨other, hmem, rfl⟩ := List.mem_map.1 hother
    rcases List.suffix_cons_iff.1 hsuffix with rfl | hinner
    · exact ⟨h name hname other hmem hne, h other hmem name hname hne.symm⟩
    · exact foreign_placeholder (by simp [hopen other hmem]) part hpart hinner

/-- The placeholders of an argument. -/
def argumentPlaceholders : List (List Char) :=
  ["url", "id", "width", "height", "anchor"].map placeholder

theorem separate_argumentPlaceholders : Separate argumentPlaceholders :=
  separate_placeholders (by decide) (by decide)

theorem separate_itemPlaceholders : Separate itemPlaceholders :=
  separate_argumentPlaceholders.tail

variable {names : List String} {name : String} {text rest : List Char}

theorem plain_append (text : List Char) (h : '\x7b' ∉ text)
    (hrest : Text.Plain (names.map placeholder) rest) :
    Text.Plain (names.map placeholder) (text ++ rest) := by
  refine .text (fun pattern hpattern => ?_) hrest
  obtain ⟨name, -, rfl⟩ := List.mem_map.1 hpattern
  exact foreign_placeholder h

theorem plain_placeholder_append (name : String) (h : name ∈ names)
    (hrest : Text.Plain (names.map placeholder) rest) :
    Text.Plain (names.map placeholder) (placeholder name ++ rest) :=
  .hole (List.mem_map_of_mem h) hrest

/-- Text without a brace is plain. -/
theorem plain_of_notMem (h : '\x7b' ∉ text) : Text.Plain (names.map placeholder) text :=
  List.append_nil text ▸ plain_append text h .nil

theorem open_notMem_toString (n : Nat) : '\x7b' ∉ (toString n).toList := by
  intro hmem
  have hdigits : '\x7b' ∈ Nat.toDigits 10 n := by simpa using hmem
  exact absurd (Nat.isDigit_of_mem_toDigits (by decide) (by decide) hdigits) (by decide)

/-! ## Settings -/

namespace WidgetSettings

/-- The arguments for an item if nothing that is put in is looked at again. -/
def onePass (s : WidgetSettings) (spec : WidgetSpec) : List String :=
  s.args.map fun template => String.ofList (substitute spec.substitution
    (replaceAll (placeholder "url") s.urlTemplate.toList template.toList))

/-- The templates are made of placeholders and of text in which none begins. -/
structure Plain (s : WidgetSettings) : Prop where
  args : ∀ template ∈ s.args, Text.Plain argumentPlaceholders template.toList
  urlTemplate : Text.Plain itemPlaceholders s.urlTemplate.toList

theorem argumentsFor_eq (s : WidgetSettings) (spec : WidgetSpec) :
    s.argumentsFor spec = s.args.map fun template => String.ofList (replaceInTurn spec.substitution
      (replaceAll (placeholder "url") (s.url spec) template.toList)) := by
  simp only [argumentsFor, replacements, replaceInTurn, WidgetSpec.substitution, List.foldl_cons]

/-- The default templates are plain. -/
theorem plain_default : Plain {} where
  args := by
    simp only [List.forall_mem_cons]
    refine ⟨?_, ?_, ?_, ?_, by simp⟩
    · exact plain_of_notMem (by decide)
    · exact plain_append "--geometry=".toList (by decide)
        (plain_placeholder_append "width" (by decide)
          (plain_append ['x'] (by decide)
            (plain_placeholder_append "height" (by decide) .nil)))
    · exact plain_append "--title=".toList (by decide)
        (plain_placeholder_append "anchor" (by decide) .nil)
    · exact plain_placeholder_append "url" (by decide) .nil
  urlTemplate :=
    plain_append "https://www.youtube.com/watch?v=".toList (by decide)
      (plain_placeholder_append "id" (by decide) .nil)

end WidgetSettings

variable {spec : WidgetSpec} {s : WidgetSettings}

/-- The identifier is the first to be put in. -/
theorem replaceInTurn_substitution {text : List Char} :
    replaceInTurn spec.substitution text = replaceInTurn spec.substitution.tail
      (replaceAll (placeholder "id") spec.identifier.toList text) := by
  rw [WidgetSpec.substitution, replaceInTurn_cons, List.tail_cons]

/-- The identifier is the placeholder of an identifier, or no placeholder of an item begins in it.
-/
def Unaffected (identifier : String) : Prop :=
  identifier.toList = placeholder "id" ∨
    ∀ pattern ∈ itemPlaceholders, Foreign pattern identifier.toList

theorem Unaffected.aligned {identifier : String} (h : Unaffected identifier) :
    Aligned (placeholder "id") identifier.toList :=
  h.imp_right fun hall => hall _ (by decide)

theorem closed_substitution (h : Unaffected spec.identifier) : Closed spec.substitution := by
  have hidentifier (pattern : List Char) (hmem : pattern ∈ itemPlaceholders)
      (hne : pattern ≠ placeholder "id") : Foreign pattern spec.identifier.toList := by
    rcases h with heq | hall
    · rw [heq]
      exact separate_itemPlaceholders.foreign _ hmem _ (by decide) hne
    · exact hall pattern hmem
  have hdigits (name : String) (n : Nat) : Foreign (placeholder name) (toString n).toList :=
    foreign_placeholder (open_notMem_toString n)
  simp only [Closed, WidgetSpec.substitution, List.pairwise_cons, List.forall_mem_cons,
    List.not_mem_nil, false_imp_iff, implies_true, hdigits, and_true, List.Pairwise.nil]
  exact ⟨hidentifier _ (by decide) (by decide), hidentifier _ (by decide) (by decide),
    hidentifier _ (by decide) (by decide)⟩

/-- An identifier that was put into the address is not affected when the others are put in. -/
theorem replaceAll_url_eq (h : Unaffected spec.identifier)
    (hurl : Text.Plain itemPlaceholders s.urlTemplate.toList) {template : List Char}
    (htemplate : Text.Plain argumentPlaceholders template) :
    replaceAll (placeholder "id") spec.identifier.toList
        (replaceAll (placeholder "url") (s.url spec) template) =
      replaceAll (placeholder "id") spec.identifier.toList
        (replaceAll (placeholder "url") s.urlTemplate.toList template) := by
  have hid : placeholder "id" ∈ itemPlaceholders := by decide
  have hne := placeholder_ne_nil "id"
  induction htemplate with
  | nil => rfl
  | @hole pattern rest hmem _ ih =>
    by_cases heq : pattern = placeholder "url"
    · rw [heq, replaceAll_append_self (placeholder_ne_nil "url"),
        replaceAll_append_self (placeholder_ne_nil "url"), WidgetSettings.url,
        hurl.replaceAll_replaceAll_append separate_itemPlaceholders hid h.aligned,
        hurl.replaceAll_text_append separate_itemPlaceholders hid]
      rw [WidgetSettings.url] at ih
      rw [ih]
    · have hitem : pattern ∈ itemPlaceholders := (List.mem_cons.1 hmem).resolve_left heq
      have hforeign :=
        separate_argumentPlaceholders.foreign _ List.mem_cons_self _ hmem (Ne.symm heq)
      have haligned := separate_itemPlaceholders.aligned hid hitem
      rw [replaceAll_append_of_foreign hforeign, replaceAll_append_of_foreign hforeign,
        replaceAll_append hne haligned, replaceAll_append hne haligned, ih]
  | text hforeign _ ih =>
    obtain ⟨hfirst, hothers⟩ := List.forall_mem_cons.1 hforeign
    rw [replaceAll_append_of_foreign hfirst, replaceAll_append_of_foreign hfirst,
      replaceAll_append_of_foreign (hothers _ hid), replaceAll_append_of_foreign (hothers _ hid),
      ih]

/-- For an unaffected identifier plain arguments are rendered as in one pass. -/
theorem argumentsFor_eq_onePass (hplain : s.Plain) (h : Unaffected spec.identifier) :
    s.argumentsFor spec = s.onePass spec := by
  rw [WidgetSettings.argumentsFor_eq, WidgetSettings.onePass]
  refine List.map_congr_left fun template hmem => congrArg String.ofList ?_
  have htemplate := hplain.args template hmem
  have hwhole : Text.Plain (spec.substitution.map Prod.fst) _ :=
    htemplate.replaced hplain.urlTemplate separate_argumentPlaceholders
  rw [← hwhole.replaceInTurn_eq separate_itemPlaceholders (closed_substitution h),
    replaceInTurn_substitution, replaceInTurn_substitution,
    replaceAll_url_eq h hplain.urlTemplate htemplate]

/-! ## Identifiers that are affected -/

/-- An identifier, and text behind it that completes a placeholder. -/
theorem exists_completed {name : String} (hopen : '\x7b' ∉ name.toList) {identifier : List Char}
    (h : ¬ Foreign (placeholder name) identifier) :
    ∃ rest : List Char, '\x7b' ∉ rest ∧ rest.length ≤ name.toList.length + 1 ∧
      placeholder name <:+: identifier ++ rest := by
  obtain ⟨rest, hsuffix, hoccurs⟩ := exists_completion h
  refine ⟨rest, fun hmem => ?_, by simpa using hsuffix.length_le, hoccurs⟩
  simpa [hopen] using hsuffix.subset hmem

theorem foreign_of_mem_substitution {text : List Char} (h : '\x7b' ∉ text) :
    ∀ entry ∈ spec.substitution, Foreign entry.1 text := by
  simp [WidgetSpec.substitution, foreign_placeholder h]

theorem substitute_identifier_append {rest : List Char} (hrest : '\x7b' ∉ rest) :
    substitute spec.substitution (placeholder "id" ++ rest) = spec.identifier.toList ++ rest := by
  have hmatch : spec.substitution.match? (placeholder "id" ++ rest) =
      some (placeholder "id", spec.identifier.toList) := by
    simp [Substitution.match?, WidgetSpec.substitution]
  rw [substitute_append_of_match (placeholder_ne_nil "id") hmatch,
    substitute_of_foreign (foreign_of_mem_substitution hrest)]

theorem replaceAll_url_identifier_append {value rest : List Char} (hrest : '\x7b' ∉ rest) :
    replaceAll (placeholder "url") value (placeholder "id" ++ rest) = placeholder "id" ++ rest := by
  have hid : Foreign (placeholder "url") (placeholder "id") :=
    separate_argumentPlaceholders.foreign _ List.mem_cons_self _ (by decide) (by decide)
  rw [replaceAll_append_of_foreign hid, replaceAll_of_foreign (foreign_placeholder hrest)]

theorem replaceAll_identifier_append {value rest : List Char} (hrest : '\x7b' ∉ rest) :
    replaceAll (placeholder "id") value (placeholder "id" ++ rest) = value ++ rest := by
  rw [replaceAll_append_self (placeholder_ne_nil "id"),
    replaceAll_of_foreign (foreign_placeholder hrest)]

/-- What it means for the only argument to be rendered as in one pass. -/
theorem text_eq_of_argumentsFor_eq {template : List Char}
    (hargs : s.args = [String.ofList template])
    (h : s.argumentsFor spec = s.onePass spec) :
    replaceInTurn spec.substitution.tail (replaceAll (placeholder "id") spec.identifier.toList
        (replaceAll (placeholder "url") (s.url spec) template)) =
      substitute spec.substitution
        (replaceAll (placeholder "url") s.urlTemplate.toList template) := by
  rw [WidgetSettings.argumentsFor_eq, WidgetSettings.onePass, hargs] at h
  have htexts := congrArg (List.map String.toList) h
  simp only [List.map_cons, List.map_nil, String.toList_ofList, List.cons.injEq, and_true] at htexts
  exact replaceInTurn_substitution.symm.trans htexts

/-- If a placeholder that is replaced later begins in the identifier, then some text behind the
identifier completes it, and it is replaced. -/
theorem exists_plain_ne_of_later {identifier name : String}
    (hname : name ∈ ["width", "height", "anchor"])
    (h : ¬ Foreign (placeholder name) identifier.toList) :
    ∃ (s : WidgetSettings) (layout : Layout), s.Plain ∧
      s.argumentsFor { layout with identifier } ≠ s.onePass { layout with identifier } := by
  have hopen : ∀ name ∈ ["width", "height", "anchor"], '\x7b' ∉ name.toList := by decide
  obtain ⟨rest, hrest, -, hoccurs⟩ := exists_completed (hopen name hname) h
  let s : WidgetSettings :=
    { args := [String.ofList (placeholder "id" ++ rest)], urlTemplate := "" }
  let spec : WidgetSpec := { anchor := "", width := 0, height := 0, identifier }
  refine ⟨s, spec.toLayout, ⟨?_, .nil⟩, fun heq => ?_⟩
  · simp only [s, List.forall_mem_singleton, String.toList_ofList]
    exact plain_placeholder_append "id" (by decide) (plain_of_notMem hrest)
  have htext := text_eq_of_argumentsFor_eq rfl heq
  rw [replaceAll_url_identifier_append hrest, replaceAll_url_identifier_append hrest,
    replaceAll_identifier_append hrest, substitute_identifier_append hrest] at htext
  -- each of the later placeholders has a brace, and what is put in for it has none
  have hless : ∀ entry ∈ spec.substitution.tail,
      entry.2.countP (· == '\x7b') < entry.1.countP (· == '\x7b') := by
    simp only [spec, WidgetSpec.substitution, List.tail_cons]
    decide
  have habsent := (countP_replaceInTurn_of_lt hless).2 (congrArg _ htext)
  have hmem : placeholder name ∈ spec.substitution.tail.map Prod.fst := List.mem_map_of_mem hname
  obtain ⟨entry, hentry, hpattern⟩ := List.mem_map.1 hmem
  exact habsent entry hentry (hpattern ▸ hoccurs)

/-- Of the placeholders that are replaced later only one fits into a short text, and then it is all
of it. -/
theorem replaceInTurn_of_short {text : List Char} (h : text.length ≤ 7) :
    replaceInTurn spec.substitution.tail text = text ∨ text = placeholder "width" := by
  have hlong {name : String} (hname : 5 < name.length) : ¬ placeholder name <:+: text := by
    intro hoccurs
    have hle := hoccurs.length_le
    simp only [placeholder, List.length_cons, List.length_append, String.length_toList] at hle
    omega
  by_cases hwidth : placeholder "width" <:+: text
  · exact .inr (hwidth.eq_of_length_le h).symm
  · refine .inl (replaceInTurn_of_absent ?_)
    simp only [WidgetSpec.substitution, List.tail_cons, List.forall_mem_cons]
    exact ⟨hwidth, hlong (by decide), hlong (by decide), by simp⟩

/-- Into a short text an identifier is put only once, and that can be seen. -/
theorem replaceAll_ne_of_short {identifier text : List Char} (hne : identifier ≠ placeholder "id")
    (hoccurs : placeholder "id" <:+: text) (h : text.length ≤ 7) :
    replaceAll (placeholder "id") identifier text ≠ text := by
  obtain ⟨front, behind, rfl, hreplace⟩ := exists_replaceAll_eq (placeholder_ne_nil "id") hoccurs
  have habsent : ¬ placeholder "id" <:+: behind := by
    intro hagain
    have hle := hagain.length_le
    have hfour : (placeholder "id").length = 4 := by decide
    simp only [List.length_append] at h
    omega
  rw [hreplace, replaceAll_of_absent habsent]
  simpa using hne

/-- If the placeholder of the identifier begins in the identifier, which is more than that, then
some text behind the identifier in the address completes it, and the identifier is put in again. -/
theorem exists_plain_ne_of_self {identifier : String} (hne : identifier.toList ≠ placeholder "id")
    (h : ¬ Foreign (placeholder "id") identifier.toList) :
    ∃ (s : WidgetSettings) (layout : Layout), s.Plain ∧
      s.argumentsFor { layout with identifier } ≠ s.onePass { layout with identifier } := by
  obtain ⟨rest, hrest, hrestLength, hoccurs⟩ := exists_completed (by decide) h
  let s : WidgetSettings :=
    { args := ["\x7burl\x7d"], urlTemplate := String.ofList (placeholder "id" ++ rest) }
  let spec : WidgetSpec :=
    { anchor := "--------", width := 1000000, height := 10000000, identifier }
  refine ⟨s, spec.toLayout, ⟨?_, ?_⟩, fun heq => ?_⟩
  · simp only [s, List.forall_mem_singleton]
    exact plain_placeholder_append "url" (by decide) .nil
  · simp only [s, String.toList_ofList]
    exact plain_placeholder_append "id" (by decide) (plain_of_notMem hrest)
  have htext := @text_eq_of_argumentsFor_eq _ _ (placeholder "url") rfl heq
  rw [replaceAll_self (placeholder_ne_nil "url"), replaceAll_self (placeholder_ne_nil "url"),
    String.toList_ofList, substitute_identifier_append hrest, WidgetSettings.url,
    String.toList_ofList, replaceAll_identifier_append hrest] at htext
  -- what is put in for the later placeholders is as long as they are, so the identifier, put in at
  -- least once more, has to be as long as its placeholder
  have hsize : ∀ entry ∈ spec.substitution.tail, entry.2.length = entry.1.length := by
    simp only [spec, WidgetSpec.substitution, List.tail_cons]
    decide
  have hlength : (replaceAll (placeholder "id") identifier.toList
      (identifier.toList ++ rest)).length = (identifier.toList ++ rest).length := by
    refine (length_replaceInTurn ?_ hsize).symm.trans (congrArg _ htext)
    simp [WidgetSpec.substitution, placeholder_ne_nil]
  have hfour : identifier.toList.length = 4 :=
    length_eq_of_length_replaceAll_eq (placeholder_ne_nil "id") hoccurs hlength
  have hshort : (identifier.toList ++ rest).length ≤ 7 := by
    rw [List.length_append, hfour]
    exact Nat.add_le_add_left hrestLength 4
  rcases replaceInTurn_of_short (hlength.trans_le hshort) with hsame | hwidth
  · exact replaceAll_ne_of_short hne hoccurs hshort (hsame.symm.trans htext)
  · have hopened : '\x7b' ∈ identifier.toList ++ rest := hoccurs.subset (by simp [placeholder])
    rw [← htext, hwidth] at hopened
    simp only [spec, WidgetSpec.substitution, List.tail_cons] at hopened
    exact absurd hopened (by decide)

/-! ## The main result -/

/-- Whatever plain settings and whatever layout: the arguments for an item are those of one pass
exactly if the identifier is the placeholder of an identifier, or if no placeholder of an item
begins in it, not even one that what comes behind it may complete. -/
theorem argumentsFor_eq_onePass_iff (identifier : String) :
    (∀ (s : WidgetSettings) (layout : Layout), s.Plain →
      s.argumentsFor { layout with identifier } = s.onePass { layout with identifier }) ↔
        Unaffected identifier := by
  refine ⟨fun h => ?_, fun h s layout hplain => argumentsFor_eq_onePass hplain h⟩
  have hall {name : String} (hname : name ∈ ["width", "height", "anchor"]) :
      Foreign (placeholder name) identifier.toList := by
    by_contra hnot
    obtain ⟨s, layout, hplain, hne⟩ := exists_plain_ne_of_later hname hnot
    exact hne (h s layout hplain)
  by_contra hnot
  rw [Unaffected, not_or] at hnot
  obtain ⟨hne, hsome⟩ := hnot
  have hself : ¬ Foreign (placeholder "id") identifier.toList := by
    intro hid
    refine hsome ?_
    simp [itemPlaceholders, hid, hall]
  obtain ⟨s, layout, hplain, hne⟩ := exists_plain_ne_of_self hne hself
  exact hne (h s layout hplain)

/-- An identifier that is the placeholder of the width is not left as it is. -/
theorem identifier_replaced :
    let s : WidgetSettings := { args := ["\x7bid\x7d"] }
    let spec : WidgetSpec := { identifier := "\x7bwidth\x7d" }
    s.argumentsFor spec = ["640"] ∧ s.onePass spec = ["\x7bwidth\x7d"] := by
  decide

end Jukebox
