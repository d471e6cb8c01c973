import Jukebox.Text.Substitute
import Mathlib.Data.List.Infix

/-!
# Replacing in turn and in one pass

A text is foreign to a placeholder if no occurrence of it can begin in the text, whatever follows
(`Foreign`). Replacing passes over a foreign text and resumes behind it, just as it resumes behind
an occurrence that it has replaced. So a text that is made of foreign texts and placeholders
(`Plain`) is replaced piece by piece.

Replacing several placeholders in turn, where a text that was put in is open to the placeholders
that follow, comes to the same as one pass if each of these texts is foreign to them
(`Plain.replaceInTurn_eq`). In the other direction lengths and numbers of characters tell whether
anything was replaced, since each occurrence gives its own for those of the value
(`exists_countP_replaceAll`).
-/

namespace Jukebox.Text

variable {pattern value text rest : List Char} {table : Substitution}

/-! ## Foreign texts -/

/-- No occurrence of the pattern begins in the text, whatever follows. -/
def Foreign (pattern text : List Char) : Prop :=
  ∀ part, part ≠ [] → part <:+ text → ¬ pattern <+: part ∧ ¬ part <+: pattern

theorem Foreign.tail {c : Char} (h : Foreign pattern (c :: text)) : Foreign pattern text :=
  fun part hne hsuffix => h part hne (hsuffix.trans (List.suffix_cons c text))

theorem Foreign.not_prefix_append {c : Char} (h : Foreign pattern (c :: text)) :
    ¬ pattern <+: c :: text ++ rest := by
  intro hhere
  obtain ⟨hnot, hnot'⟩ := h (c :: text) (List.cons_ne_nil _ _) List.suffix_rfl
  rcases List.prefix_or_prefix_of_prefix hhere (List.prefix_append (c :: text) rest) with h | h
  · exact hnot h
  · exact hnot' h

/-- A text without the first character of a pattern is foreign to it. -/
theorem foreign_of_not_mem {c : Char} (h : c ∉ text) : Foreign (c :: pattern) text := by
  intro part hne hsuffix
  obtain ⟨d, part, rfl⟩ := List.exists_cons_of_ne_nil hne
  have hd : d ≠ c := by
    rintro rfl
    exact h (hsuffix.subset List.mem_cons_self)
  simp [List.cons_prefix_cons, hd, hd.symm]

/-- Text that is not foreign to a pattern can be continued so that the pattern occurs, with some of
the pattern behind its first character. -/
theorem exists_completion {c : Char} (h : ¬ Foreign (c :: pattern) text) :
    ∃ rest, rest <:+ pattern ∧ c :: pattern <:+: text ++ rest := by
  simp only [Foreign, not_forall, not_and_or, not_not] at h
  obtain ⟨part, hne, ⟨front, rfl⟩, hwhole | hbegun⟩ := h
  · exact ⟨[], List.nil_suffix, by
      simpa using hwhole.isInfix.trans (List.suffix_append front part).isInfix⟩
  · obtain ⟨d, part, rfl⟩ := List.exists_cons_of_ne_nil hne
    obtain ⟨rest, hrest⟩ := hbegun
    obtain ⟨rfl, rfl⟩ := List.cons.inj hrest
    exact ⟨rest, List.suffix_append part rest, by
      simpa using (List.suffix_append front (d :: (part ++ rest))).isInfix⟩

/-! ## One pass -/

theorem substituteFrom_append {skipped : List Char} :
    substituteFrom table skipped.length (skipped ++ rest) = substitute table rest := by
  induction skipped with
  | nil => rfl
  | cons c skipped ih => exact ih

theorem substitute_nil : substitute table [] = [] := rfl

/-- A pass goes over text that is foreign to all placeholders. -/
theorem substitute_append_of_foreign (h : ∀ entry ∈ table, Foreign entry.1 text) :
    substitute table (text ++ rest) = text ++ substitute table rest := by
  induction text with
  | nil => rfl
  | cons c text ih =>
    have hnone : table.match? (c :: text ++ rest) = none :=
      List.find?_eq_none.2 fun entry hmem hhere =>
        (h entry hmem).not_prefix_append (List.isPrefixOf_iff_prefix.1 hhere)
    have hstep : substitute table (c :: text ++ rest) = c :: substitute table (text ++ rest) := by
      rw [List.cons_append] at hnone ⊢
      simp only [substitute, substituteFrom, hnone]
    rw [hstep, ih fun entry hmem => (h entry hmem).tail, List.cons_append]

theorem substitute_of_foreign (h : ∀ entry ∈ table, Foreign entry.1 text) :
    substitute table text = text := by
  have happend := @substitute_append_of_foreign text [] table h
  simpa [substitute_nil] using happend

/-- A pass puts the value of a placeholder in its place and resumes behind it. -/
theorem substitute_append_of_match (hne : pattern ≠ [])
    (h : table.match? (pattern ++ rest) = some (pattern, value)) :
    substitute table (pattern ++ rest) = value ++ substitute table rest := by
  obtain ⟨c, tail, rfl⟩ := List.exists_cons_of_ne_nil hne
  rw [List.cons_append] at h ⊢
  simp only [substitute, substituteFrom, h, List.length_cons, Nat.add_sub_cancel]
  rw [substituteFrom_append, substitute]

/-! ## A single placeholder -/

theorem replaceAll_eq_substitute :
    replaceAll pattern value text = substitute [(pattern, value)] text :=
  (substituteFrom_singleton pattern value text 0).symm

theorem replaceAll_nil : replaceAll pattern value [] = [] := rfl

theorem replaceAll_append_of_foreign (h : Foreign pattern text) :
    replaceAll pattern value (text ++ rest) = text ++ replaceAll pattern value rest := by
  simp only [replaceAll_eq_substitute]
  exact substitute_append_of_foreign (by simpa using h)

theorem replaceAll_of_foreign (h : Foreign pattern text) :
    replaceAll pattern value text = text := by
  have happend := @replaceAll_append_of_foreign pattern value text [] h
  simpa [replaceAll_nil] using happend

theorem replaceAll_append_self (hne : pattern ≠ []) :
    replaceAll pattern value (pattern ++ rest) = value ++ replaceAll pattern value rest := by
  simp only [replaceAll_eq_substitute]
  exact substitute_append_of_match hne (by simp [Substitution.match?])

theorem replaceAll_self (hne : pattern ≠ []) : replaceAll pattern value pattern = value := by
  have happend := @replaceAll_append_self pattern value [] hne
  simpa [replaceAll_nil] using happend

/-- The text is the pattern itself or foreign to it. -/
def Aligned (pattern text : List Char) : Prop := text = pattern ∨ Foreign pattern text

/-- Replacing comes to the end of an aligned piece. -/
theorem replaceAll_append {piece : List Char} (hne : pattern ≠ []) (h : Aligned pattern piece) :
    replaceAll pattern value (piece ++ rest) =
      replaceAll pattern value piece ++ replaceAll pattern value rest := by
  rcases h with rfl | hforeign
  · rw [replaceAll_append_self hne, replaceAll_self hne]
  · rw [replaceAll_append_of_foreign hforeign, replaceAll_of_foreign hforeign]

theorem replaceAll_cons_of_unmatched {c : Char} (h : ¬ pattern <+: c :: text) :
    replaceAll pattern value (c :: text) = c :: replaceAll pattern value text := by
  rw [replaceAll, replaceFrom, if_neg (mt List.isPrefixOf_iff_prefix.1 h), replaceAll]

theorem replaceAll_of_absent (h : ¬ pattern <:+: text) :
    replaceAll pattern value text = text := by
  induction text with
  | nil => rfl
  | cons c text ih =>
    rw [List.infix_cons_iff, not_or] at h
    rw [replaceAll_cons_of_unmatched h.1, ih h.2]

/-- The first occurrence is replaced, and replacing resumes behind it. -/
theorem exists_replaceAll_eq (hne : pattern ≠ []) (h : pattern <:+: text) :
    ∃ front rest, text = front ++ pattern ++ rest ∧
      ∀ value, replaceAll pattern value text = front ++ value ++ replaceAll pattern value rest := by
  induction text with
  | nil => exact absurd (List.infix_nil.1 h) hne
  | cons c text ih =>
    by_cases hhere : pattern <+: c :: text
    · obtain ⟨rest, hrest⟩ := hhere
      refine ⟨[], rest, by simpa using hrest.symm, fun value => ?_⟩
      rw [← hrest, replaceAll_append_self hne, List.nil_append]
    · obtain ⟨front, rest, rfl, hreplace⟩ := ih ((List.infix_cons_iff.1 h).resolve_left hhere)
      refine ⟨c :: front, rest, rfl, fun value => ?_⟩
      rw [replaceAll_cons_of_unmatched hhere, hreplace]
      rfl

/-- Each occurrence takes its characters away and brings in those of the value. -/
theorem exists_countP_replaceAll (hne : pattern ≠ []) (text : List Char) :
    ∃ occurrences, (pattern <:+: text → 0 < occurrences) ∧ ∀ value (φ : Char → Bool),
      (replaceAll pattern value text).countP φ + occurrences * pattern.countP φ =
        text.countP φ + occurrences * value.countP φ := by
  by_cases h : pattern <:+: text
  · obtain ⟨front, rest, hsplit, hreplace⟩ := exists_replaceAll_eq hne h
    obtain ⟨occurrences, -, hcount⟩ := exists_countP_replaceAll hne rest
    refine ⟨occurrences + 1, fun _ => Nat.succ_pos _, fun value φ => ?_⟩
    have hrest := hcount value φ
    rw [hreplace, hsplit]
    simp only [List.countP_append, Nat.add_mul, Nat.one_mul]
    omega
  · exact ⟨0, fun hoccurs => absurd hoccurs h, fun value φ => by
      rw [replaceAll_of_absent h, Nat.zero_mul, Nat.zero_mul]⟩
termination_by text.length
decreasing_by
  have hpos : 0 < pattern.length := List.length_pos_iff.2 hne
  simp only [hsplit, List.length_append]
  omega

theorem exists_length_replaceAll (hne : pattern ≠ []) (text : List Char) :
    ∃ occurrences, (pattern <:+: text → 0 < occurrences) ∧ ∀ value,
      (replaceAll pattern value text).length + occurrences * pattern.length =
        text.length + occurrences * value.length := by
  obtain ⟨occurrences, hpos, hcount⟩ := exists_countP_replaceAll hne text
  exact ⟨occurrences, hpos, fun value => by simpa using hcount value fun _ => true⟩

/-- Where a replacement keeps the length, the value is as long as the pattern. -/
theorem length_eq_of_length_replaceAll_eq (hne : pattern ≠ []) (hoccurs : pattern <:+: text)
    (h : (replaceAll pattern value text).length = text.length) : value.length = pattern.length := by
  obtain ⟨occurrences, hpos, hlength⟩ := exists_length_replaceAll hne text
  have hsame := hlength value
  rw [h] at hsame
  exact (Nat.eq_of_mul_eq_mul_left (hpos hoccurs) (Nat.add_left_cancel hsame)).symm

/-! ## Placeholders in turn -/

/-- The placeholders of a table are replaced one after the other. -/
def replaceInTurn (table : Substitution) (text : List Char) : List Char :=
  table.foldl (fun text entry => replaceAll entry.1 entry.2 text) text

theorem replaceInTurn_cons {entry : List Char × List Char} :
    replaceInTurn (entry :: table) text = replaceInTurn table (replaceAll entry.1 entry.2 text) :=
  rfl

theorem replaceInTurn_append_of_foreign (h : ∀ entry ∈ table, Foreign entry.1 text) :
    replaceInTurn table (text ++ rest) = text ++ replaceInTurn table rest := by
  induction table generalizing rest with
  | nil => rfl
  | cons entry table ih =>
    obtain ⟨hfirst, hothers⟩ := List.forall_mem_cons.1 h
    rw [replaceInTurn_cons, replaceAll_append_of_foreign hfirst, ih hothers, replaceInTurn_cons]

theorem replaceInTurn_of_absent (h : ∀ entry ∈ table, ¬ entry.1 <:+: text) :
    replaceInTurn table text = text := by
  induction table with
  | nil => rfl
  | cons entry table ih =>
    obtain ⟨hfirst, hothers⟩ := List.forall_mem_cons.1 h
    rw [replaceInTurn_cons, replaceAll_of_absent hfirst, ih hothers]

/-- Values as long as their placeholders leave the length as it is. -/
theorem length_replaceInTurn (hne : ∀ entry ∈ table, entry.1 ≠ [])
    (h : ∀ entry ∈ table, entry.2.length = entry.1.length) :
    (replaceInTurn table text).length = text.length := by
  induction table generalizing text with
  | nil => rfl
  | cons entry table ih =>
    obtain ⟨hfirst, hothers⟩ := List.forall_mem_cons.1 h
    obtain ⟨hne, hne'⟩ := List.forall_mem_cons.1 hne
    obtain ⟨occurrences, -, hlength⟩ := exists_length_replaceAll hne text
    have hstep := hlength entry.2
    rw [hfirst] at hstep
    rw [replaceInTurn_cons, ih hne' hothers]
    omega

/-- Values with fewer of some characters than their placeholders do not raise the number, and if the
number stays, no placeholder was there. -/
theorem countP_replaceInTurn_of_lt {φ : Char → Bool}
    (h : ∀ entry ∈ table, entry.2.countP φ < entry.1.countP φ) :
    (replaceInTurn table text).countP φ ≤ text.countP φ ∧
      ((replaceInTurn table text).countP φ = text.countP φ →
        ∀ entry ∈ table, ¬ entry.1 <:+: text) := by
  induction table generalizing text with
  | nil => exact ⟨Nat.le_refl _, by simp⟩
  | cons entry table ih =>
    obtain ⟨hfirst, hothers⟩ := List.forall_mem_cons.1 h
    have hne : entry.1 ≠ [] := by
      intro hnil
      simp [hnil] at hfirst
    obtain ⟨occurrences, hpos, hcount⟩ := exists_countP_replaceAll hne text
    have hstep := hcount entry.2 φ
    have hlost : occurrences * entry.2.countP φ + occurrences ≤ occurrences * entry.1.countP φ := by
      rw [← Nat.mul_succ]
      exact Nat.mul_le_mul_left _ hfirst
    obtain ⟨hle, habsent⟩ := @ih (replaceAll entry.1 entry.2 text) hothers
    rw [replaceInTurn_cons]
    refine ⟨by omega, fun heq => ?_⟩
    have hnone : ¬ entry.1 <:+: text := fun hoccurs => by
      have := hpos hoccurs
      omega
    refine List.forall_mem_cons.2 ⟨hnone, ?_⟩
    rw [replaceAll_of_absent hnone] at habsent heq
    exact habsent heq

/-! ## Plain texts -/

/-- A text made of placeholders and of text that is foreign to all of them. -/
inductive Plain (placeholders : List (List Char)) : List Char → Prop
  | nil : Plain placeholders []
  | hole {pattern rest : List Char} : pattern ∈ placeholders → Plain placeholders rest →
      Plain placeholders (pattern ++ rest)
  | text {text rest : List Char} : (∀ pattern ∈ placeholders, Foreign pattern text) →
      Plain placeholders rest → Plain placeholders (text ++ rest)

/-- Placeholders that are not empty, none of which begins within another. -/
structure Separate (placeholders : List (List Char)) : Prop where
  ne_nil : ∀ pattern ∈ placeholders, pattern ≠ []
  foreign : ∀ pattern ∈ placeholders, ∀ other ∈ placeholders, pattern ≠ other →
    Foreign pattern other

theorem Separate.tail {placeholders : List (List Char)}
    (h : Separate (pattern :: placeholders)) : Separate placeholders where
  ne_nil other hmem := h.ne_nil other (List.mem_cons_of_mem _ hmem)
  foreign other hmem other' hmem' :=
    h.foreign other (List.mem_cons_of_mem _ hmem) other' (List.mem_cons_of_mem _ hmem')

theorem Separate.aligned {placeholders : List (List Char)} {other : List Char}
    (h : Separate placeholders) (hmem : pattern ∈ placeholders) (hother : other ∈ placeholders) :
    Aligned pattern other :=
  (eq_or_ne other pattern).imp_right fun hne => h.foreign _ hmem _ hother hne.symm

/-- What a table puts in is foreign to the placeholders further on in it. -/
def Closed (table : Substitution) : Prop :=
  table.Pairwise fun entry later => Foreign later.1 entry.2

/-- Replacing in turn puts a value in the place of a placeholder and resumes behind it, and so does
a pass. -/
theorem exists_replaceInTurn_append (hseparate : Separate (table.map Prod.fst))
    (hclosed : Closed table) (hmem : pattern ∈ table.map Prod.fst) :
    ∃ value, ∀ rest, replaceInTurn table (pattern ++ rest) = value ++ replaceInTurn table rest ∧
      table.match? (pattern ++ rest) = some (pattern, value) := by
  induction table with
  | nil => simp at hmem
  | cons entry table ih =>
    obtain ⟨hlater, hclosed⟩ := List.pairwise_cons.1 hclosed
    have hfirst : entry.1 ∈ (entry :: table).map Prod.fst := List.mem_cons_self
    by_cases heq : entry.1 = pattern
    · refine ⟨entry.2, fun rest => ⟨?_, ?_⟩⟩
      · rw [← heq, replaceInTurn_cons, replaceAll_append_self (hseparate.ne_nil _ hfirst),
          replaceInTurn_append_of_foreign hlater, replaceInTurn_cons]
      · simp [Substitution.match?, ← heq]
    · have htail : pattern ∈ table.map Prod.fst :=
        (List.mem_cons.1 hmem).resolve_left (Ne.symm heq)
      obtain ⟨value, hvalue⟩ := ih hseparate.tail hclosed htail
      have hforeign := hseparate.foreign _ hfirst _ hmem heq
      refine ⟨value, fun rest => ⟨?_, ?_⟩⟩
      · rw [replaceInTurn_cons, replaceAll_append_of_foreign hforeign, (hvalue _).1,
          replaceInTurn_cons]
      · obtain ⟨c, tail, rfl⟩ := List.exists_cons_of_ne_nil (hseparate.ne_nil _ hmem)
        rw [Substitution.match?, List.find?_cons_of_neg]
        · exact (hvalue rest).2
        · exact mt List.isPrefixOf_iff_prefix.1 hforeign.not_prefix_append

namespace Plain

variable {placeholders : List (List Char)}

theorem append {front : List Char} (hfront : Plain placeholders front)
    (hrest : Plain placeholders rest) : Plain placeholders (front ++ rest) := by
  induction hfront with
  | nil => exact hrest
  | hole hmem _ ih => exact List.append_assoc .. ▸ .hole hmem ih
  | text hforeign _ ih => exact List.append_assoc .. ▸ .text hforeign ih

/-- On plain text replacing in turn comes to the same as one pass, if nothing that is put in is
replaced again. -/
theorem replaceInTurn_eq (h : Plain (table.map Prod.fst) text)
    (hseparate : Separate (table.map Prod.fst)) (hclosed : Closed table) :
    replaceInTurn table text = substitute table text := by
  induction h with
  | nil =>
    refine replaceInTurn_of_absent fun entry hentry hoccurs => ?_
    exact hseparate.ne_nil _ (List.mem_map_of_mem hentry) (List.infix_nil.1 hoccurs)
  | hole hmem _ ih =>
    obtain ⟨value, hvalue⟩ := exists_replaceInTurn_append hseparate hclosed hmem
    rw [(hvalue _).1, substitute_append_of_match (hseparate.ne_nil _ hmem) (hvalue _).2, ih]
  | text hforeign _ ih =>
    have hentries : ∀ entry ∈ table, Foreign entry.1 _ := fun entry hentry =>
      hforeign _ (List.mem_map_of_mem hentry)
    rw [replaceInTurn_append_of_foreign hentries, substitute_append_of_foreign hentries, ih]

/-- A plain text in the place of a placeholder leaves a text plain. -/
theorem replaced (h : Plain (pattern :: placeholders) text) (hvalue : Plain placeholders value)
    (hseparate : Separate (pattern :: placeholders)) :
    Plain placeholders (replaceAll pattern value text) := by
  have hne := hseparate.ne_nil pattern List.mem_cons_self
  induction h with
  | nil => exact .nil
  | @hole other rest hmem _ ih =>
    by_cases heq : other = pattern
    · rw [heq, replaceAll_append_self hne]
      exact hvalue.append ih
    · have hforeign := hseparate.foreign _ List.mem_cons_self _ hmem (Ne.symm heq)
      rw [replaceAll_append_of_foreign hforeign]
      exact .hole ((List.mem_cons.1 hmem).resolve_left heq) ih
  | text hforeign _ ih =>
    obtain ⟨hfirst, hothers⟩ := List.forall_mem_cons.1 hforeign
    rw [replaceAll_append_of_foreign hfirst]
    exact .text hothers ih

/-- Replacing comes to the end of a plain text. -/
theorem replaceAll_text_append (h : Plain placeholders text) (hseparate : Separate placeholders)
    (hmem : pattern ∈ placeholders) :
    replaceAll pattern value (text ++ rest) =
      replaceAll pattern value text ++ replaceAll pattern value rest := by
  have hne := hseparate.ne_nil pattern hmem
  induction h with
  | nil => rfl
  | hole hother _ ih =>
    have hpiece := hseparate.aligned hmem hother
    rw [List.append_assoc, replaceAll_append hne hpiece, replaceAll_append hne hpiece, ih,
      List.append_assoc]
  | text hforeign _ ih =>
    have hpiece : Aligned pattern _ := .inr (hforeign pattern hmem)
    rw [List.append_assoc, replaceAll_append hne hpiece, replaceAll_append hne hpiece, ih,
      List.append_assoc]

/-- Replacing again what was replaced changes nothing if the value is the placeholder itself or
foreign to it. -/
theorem replaceAll_replaceAll_append (h : Plain placeholders text)
    (hseparate : Separate placeholders) (hmem : pattern ∈ placeholders)
    (hvalue : Aligned pattern value) :
    replaceAll pattern value (replaceAll pattern value text ++ rest) =
      replaceAll pattern value text ++ replaceAll pattern value rest := by
  have hne := hseparate.ne_nil pattern hmem
  have hagain (rest : List Char) :
      replaceAll pattern value (value ++ rest) = value ++ replaceAll pattern value rest := by
    rcases hvalue with rfl | hforeign
    · exact replaceAll_append_self hne
    · exact replaceAll_append_of_foreign hforeign
  induction h with
  | nil => rfl
  | hole hother _ ih =>
    rcases hseparate.aligned hmem hother with rfl | hforeign
    · rw [replaceAll_append_self hne, List.append_assoc, hagain, ih, List.append_assoc]
    · rw [replaceAll_append_of_foreign hforeign, List.append_assoc,
        replaceAll_append_of_foreign hforeign, ih, List.append_assoc]
  | text hforeign _ ih =>
    rw [replaceAll_append_of_foreign (hforeign _ hmem), List.append_assoc,
      replaceAll_append_of_foreign (hforeign _ hmem), ih, List.append_assoc]

end Plain

end Jukebox.Text
