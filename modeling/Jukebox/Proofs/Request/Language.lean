import Jukebox.Request.Basic

/-!
# The language of requests

The texts that make a request are `PLAY`, one space and an identifier that is not empty, and `SKIP`
alone. Reading (`Request.parse?`) and writing (`Request.render`) are inverse to each other on
them: every request but the one for the empty identifier is read back from its text, and every text
that is read is the one text of what was read.

`parse?_eq_some_iff` carries all of this. It rests on the cut at the first space: a text is cut in
one way only, because the word before the cut holds no space, while the identifier behind it may.
-/

namespace Jukebox.Request

/-! ## Texts that ask for an item -/

theorem render_play (identifier : String) : render (play identifier) = "PLAY " ++ identifier := by
  rw [← String.toList_inj, String.toList_append, render, String.toList_ofList]
  rfl

theorem render_skip : render skip = "SKIP" := rfl

/-- The first space of a text that asks for an item is the one behind the word. -/
theorem identifierChars?_eq_some_iff {payload identifier : List Char} :
    identifierChars? payload = some identifier ↔
      payload = playWord ++ ' ' :: identifier ∧ identifier ≠ [] := by
  rw [identifierChars?]
  constructor
  · intro h
    split at h
    · rename_i word rest hcut
      rw [Option.ite_none_right_eq_some, Option.some.injEq] at h
      obtain ⟨⟨rfl, hrest⟩, rfl⟩ := h
      exact ⟨(cutAtSpace_eq_some_iff.1 hcut).1, hrest⟩
    · cases h
  · rintro ⟨rfl, hne⟩
    have hcut : cutAtSpace (playWord ++ ' ' :: identifier) = some (playWord, identifier) :=
      cutAtSpace_eq_some_iff.2 ⟨rfl, by decide⟩
    simp [hcut, hne]

theorem identifier?_eq_some_iff {payload identifier : String} :
    identifier? payload = some identifier ↔ payload = "PLAY " ++ identifier ∧ identifier ≠ "" := by
  have hchars : identifier? payload = some identifier ↔
      identifierChars? payload.toList = some identifier.toList := by
    rw [identifier?, Option.map_eq_some_iff]
    constructor
    · rintro ⟨rest, hrest, rfl⟩
      rwa [String.toList_ofList]
    · intro h
      exact ⟨identifier.toList, h, String.ofList_toList⟩
  rw [hchars, identifierChars?_eq_some_iff, ← render_play, ← String.toList_inj, render,
    String.toList_ofList, Ne, String.toList_eq_nil_iff]

/-- The bare word asks for no item. -/
theorem play_ne_skip (identifier : String) : "PLAY " ++ identifier ≠ "SKIP" := by
  intro h
  have hchars := congrArg String.toList h
  rw [String.toList_append] at hchars
  exact absurd (List.head_eq_of_cons_eq hchars) (by decide)

theorem identifier?_skip : identifier? "SKIP" = none := by
  rw [Option.eq_none_iff_forall_ne_some]
  intro identifier h
  exact play_ne_skip identifier (identifier?_eq_some_iff.1 h).1.symm

/-! ## All requests -/

theorem parse?_eq_some_play_iff {payload identifier : String} :
    parse? payload = some (play identifier) ↔
      payload = "PLAY " ++ identifier ∧ identifier ≠ "" := by
  rw [← identifier?_eq_some_iff, parse?]
  cases identifier? payload with
  | none => simp
  | some other => simp

theorem parse?_eq_some_skip_iff {payload : String} :
    parse? payload = some skip ↔ payload = "SKIP" := by
  have hword : payload.toList = skipWord ↔ payload = "SKIP" := by
    rw [← String.toList_inj]
    rfl
  constructor
  · intro h
    rw [parse?] at h
    split at h
    · cases h
    · rw [Option.ite_none_right_eq_some] at h
      exact hword.1 h.1
  · rintro rfl
    rw [parse?, identifier?_skip]
    rfl

/-- A text is read as a request exactly if it is the text of that request, which is not the one for
the empty identifier. -/
theorem parse?_eq_some_iff {payload : String} {request : Request} :
    parse? payload = some request ↔ payload = render request ∧ request ≠ play "" := by
  cases request with
  | play identifier => rw [parse?_eq_some_play_iff, render_play, Ne, Ne, play.injEq]
  | skip => simp [parse?_eq_some_skip_iff, render_skip]

/-- Every text that neither asks for an item nor skips is no request. -/
theorem parse?_eq_none_iff {payload : String} :
    parse? payload = none ↔
      payload ≠ "SKIP" ∧ ∀ identifier, payload = "PLAY " ++ identifier → identifier = "" := by
  rw [Option.eq_none_iff_forall_ne_some]
  constructor
  · intro hnone
    refine ⟨fun h => hnone skip (parse?_eq_some_skip_iff.2 h), fun identifier h => ?_⟩
    refine Decidable.byContradiction fun hne => ?_
    exact hnone (play identifier) (parse?_eq_some_play_iff.2 ⟨h, hne⟩)
  · rintro ⟨hskip, hplay⟩ request h
    cases request with
    | play identifier =>
      obtain ⟨htext, hne⟩ := parse?_eq_some_play_iff.1 h
      exact hne (hplay identifier htext)
    | skip => exact hskip (parse?_eq_some_skip_iff.1 h)

theorem parse?_render_play_empty : parse? (render (play "")) = none := by
  rw [render_play, parse?_eq_none_iff]
  refine ⟨play_ne_skip "", fun identifier h => ?_⟩
  exact ((String.append_right_inj "PLAY ").1 h).symm

/-! ## The main result -/

/-- A text is read as a request for an item exactly if it is `PLAY`, one space and the identifier,
which is not empty, and as a skip exactly if it is `SKIP`; no text is both, and every other text is
no request. So every request is read back from its own text, but for the one for the empty
identifier, whose text is no request; and the text of what was read from a text is that text. -/
theorem parse?_inverse_render :
    (∀ payload,
      (∀ identifier, parse? payload = some (play identifier) ↔
        payload = "PLAY " ++ identifier ∧ identifier ≠ "") ∧
      (parse? payload = some skip ↔ payload = "SKIP") ∧
      (parse? payload = none ↔
        payload ≠ "SKIP" ∧ ∀ identifier, payload = "PLAY " ++ identifier → identifier = "")) ∧
    (∀ identifier, "PLAY " ++ identifier ≠ "SKIP") ∧
    (∀ request, parse? (render request) = if request = play "" then none else some request) ∧
    ∀ payload request, parse? payload = some request → render request = payload := by
  refine ⟨?_, play_ne_skip, ?_, ?_⟩
  · intro payload
    exact ⟨fun _ => parse?_eq_some_play_iff, parse?_eq_some_skip_iff, parse?_eq_none_iff⟩
  · intro request
    split
    · rename_i hempty
      rw [hempty, parse?_render_play_empty]
    · rename_i hne
      exact parse?_eq_some_iff.2 ⟨rfl, hne⟩
  · intro payload request h
    exact (parse?_eq_some_iff.1 h).1.symm

end Jukebox.Request
