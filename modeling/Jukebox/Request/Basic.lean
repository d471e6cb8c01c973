/-!
# Song requests

A request travels as one text: `PLAY`, a space and the identifier of the item, or the bare word
`SKIP`. The identifier is everything after the first space, so it may hold spaces itself. Any
other text is no request.
-/

namespace Jukebox

/-- What a listener asks for. -/
inductive Request
  /-- Put the identified item at the end of the queue. -/
  | play (identifier : String)
  /-- Go on to the next item at once. -/
  | skip
  deriving Repr, DecidableEq

namespace Request

/-- The word that asks for an item. -/
def playWord : List Char := ['P', 'L', 'A', 'Y']

/-- The word that asks for the next item. -/
def skipWord : List Char := ['S', 'K', 'I', 'P']

/-- The text cut at its first space: what stands before and what stands behind it. -/
def cutAtSpace : List Char → Option (List Char × List Char)
  | [] => none
  | c :: rest =>
    if c = ' ' then some ([], rest)
    else (cutAtSpace rest).map fun (word, tail) => (c :: word, tail)

/-- The identifier a text asks for: what follows the first space, provided that the word before
it is `PLAY` and that something follows. -/
def identifierChars? (payload : List Char) : Option (List Char) :=
  match cutAtSpace payload with
  | some (word, rest) => if word = playWord ∧ rest ≠ [] then some rest else none
  | none => none

/-- The identifier a text asks for, if it asks for one. -/
def identifier? (payload : String) : Option String :=
  (identifierChars? payload.toList).map String.ofList

/-- The request a text makes, if it makes one. -/
def parse? (payload : String) : Option Request :=
  match identifier? payload with
  | some identifier => some (play identifier)
  | none => if payload.toList = skipWord then some skip else none

/-- The text that makes a request. -/
def render : Request → String
  | play identifier => String.ofList (playWord ++ ' ' :: identifier.toList)
  | skip => String.ofList skipWord

/-- A cut text is its word, the space and the rest, and the word holds no space. -/
theorem cutAtSpace_eq_some_iff {text word rest : List Char} :
    cutAtSpace text = some (word, rest) ↔ text = word ++ ' ' :: rest ∧ ' ' ∉ word := by
  induction text generalizing word with
  | nil => simp [cutAtSpace]
  | cons c cs ih =>
    by_cases hc : c = ' '
    · subst hc
      cases word <;> simp [cutAtSpace]
      rintro rfl
      simp
    · cases word with
      | nil => simp [cutAtSpace, hc]
      | cons d ds =>
        simp only [cutAtSpace, hc, if_false, Option.map_eq_some_iff, Prod.exists, Prod.mk.injEq,
          List.cons.injEq, List.cons_append, List.mem_cons, not_or]
        constructor
        · rintro ⟨w, t, h, ⟨rfl, rfl⟩, rfl⟩
          exact ⟨⟨rfl, (ih.1 h).1⟩, fun h' => hc h'.symm, (ih.1 h).2⟩
        · rintro ⟨⟨rfl, h⟩, -, hn⟩
          exact ⟨ds, rest, ih.2 ⟨h, hn⟩, ⟨rfl, rfl⟩, rfl⟩

/-- The identifier that a text asks for is not empty. -/
theorem parse?_ne_play_empty (payload : String) : parse? payload ≠ some (play "") := by
  intro h
  have hid : identifier? payload = some "" := by
    rw [parse?] at h
    split at h
    · rename_i identifier hid
      simp only [Option.some.injEq, play.injEq] at h
      rw [hid, h]
    · split at h <;> simp at h
  obtain ⟨rest, hrest, hempty⟩ := Option.map_eq_some_iff.1 hid
  have hnil : rest = [] := String.ofList_eq_empty_iff.1 hempty
  rw [identifierChars?] at hrest
  split at hrest
  · split at hrest
    · rename_i hword
      simp only [Option.some.injEq] at hrest
      exact hword.2 (hrest.trans hnil)
    · simp at hrest
  · simp at hrest

end Request

end Jukebox
