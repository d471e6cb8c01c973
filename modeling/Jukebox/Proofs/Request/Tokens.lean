import Jukebox.Request.Tokens

/-!
# Identifiers token by token

Listeners are told to think of a request as tokens: split at every single space, the first token is
`PLAY`, and the others, joined again, are the identifier. The player looks at the first space only.
The main result is `identifier?_eq_splitIdentifier?`: in every text both find the same identifier,
and where one finds none the other finds none either.

The cut at the first space and the split at every space are tied by `tokens_of_cut` and
`tokens_of_uncut`; the tokens behind the first are those of the text behind the cut, and joining
them gives that text back (`rejoin_tokens`). That splitting and joining are what they are said to be
is `tokens_eq_splitOn` and `rejoin_eq_intercalate`.
-/

namespace Jukebox.Request

/-! ## The split and the cut -/

theorem tokens_eq_splitOn (text : List Char) : tokens text = text.splitOn ' ' := by
  induction text with
  | nil => rfl
  | cons c cs ih =>
    rw [tokens, List.splitOn_cons_eq_if_modifyHead, ← ih]
    by_cases hc : c = ' '
    · simp [hc]
    · cases h : tokens cs with
      | nil => exact absurd h (tokens_ne_nil cs)
      | cons token others => simp [hc]

theorem rejoin_eq_intercalate (tokens : List (List Char)) :
    rejoin tokens = [' '].intercalate tokens := by
  induction tokens with
  | nil => rfl
  | cons token others ih =>
    cases others with
    | nil => rw [rejoin, List.intercalate_singleton]
    | cons other others => simp [rejoin, ih, List.intercalate_cons_cons]

/-- The first token is what stands before the first space, and the others are those of the rest. -/
theorem tokens_of_cut {text word rest : List Char} (h : cutAtSpace text = some (word, rest)) :
    tokens text = word :: tokens rest := by
  obtain ⟨rfl, hword⟩ := cutAtSpace_eq_some_iff.1 h
  rw [tokens_eq_splitOn, tokens_eq_splitOn, List.splitOn_append_cons_self_of_not_mem hword]

/-- A text that is not cut is one token. -/
theorem tokens_of_uncut {text : List Char} (h : cutAtSpace text = none) : tokens text = [text] := by
  have hword : ' ' ∉ text := by
    intro hmem
    obtain ⟨word, rest, rfl, hword⟩ := List.eq_append_cons_of_mem hmem
    rw [cutAtSpace_eq_some_iff.2 ⟨rfl, hword⟩] at h
    cases h
  rw [tokens_eq_splitOn, List.splitOn_eq_singleton hword]

/-- The first space tells as much as all of them. -/
theorem identifierChars?_eq_tokenIdentifier? (payload : List Char) :
    identifierChars? payload = tokenIdentifier? payload := by
  rw [identifierChars?, tokenIdentifier?]
  cases hcut : cutAtSpace payload with
  | none => simp [tokens_of_uncut hcut, rejoin]
  | some cut =>
    obtain ⟨word, rest⟩ := cut
    simp [tokens_of_cut hcut, rejoin_tokens]

/-! ## The main result -/

/-- The identifier in a text as a listener reads it: the text is split at every space, empty tokens
are kept, the first token is `PLAY`, and the others are joined by single spaces. -/
def splitIdentifier? (payload : String) : Option String :=
  match (payload.split ' ').toList.map String.Slice.copy with
  | [] => none
  | word :: others =>
    if word = "PLAY" ∧ " ".intercalate others ≠ "" then some (" ".intercalate others) else none

theorem map_ofList_tokens (payload : String) :
    (payload.split ' ').toList.map String.Slice.copy =
      (tokens payload.toList).map String.ofList := by
  rw [String.toList_split_char, tokens_eq_splitOn]

theorem ofList_rejoin (tokens : List (List Char)) :
    " ".intercalate (tokens.map String.ofList) = String.ofList (rejoin tokens) := by
  have hid : String.toList ∘ String.ofList = id := funext fun _ => String.toList_ofList
  have hspace : " ".toList = [' '] := rfl
  rw [← String.toList_inj, String.toList_intercalate, List.map_map, hid, List.map_id, hspace,
    ← rejoin_eq_intercalate, String.toList_ofList]

theorem splitIdentifier?_eq (payload : String) :
    splitIdentifier? payload = (tokenIdentifier? payload.toList).map String.ofList := by
  rw [splitIdentifier?, tokenIdentifier?, map_ofList_tokens]
  cases tokens payload.toList with
  | nil => rfl
  | cons word others =>
    have hword : String.ofList word = "PLAY" ↔ word = playWord := by
      rw [← String.toList_inj, String.toList_ofList]
      rfl
    have hempty : String.ofList (rejoin others) = "" ↔ rejoin others = [] :=
      String.ofList_eq_empty_iff
    simp only [List.map_cons, ofList_rejoin, hword, ne_eq, hempty]
    split <;> rfl

/-- In every text the player finds, by its first space alone, the identifier that a listener reads
token by token, and none where the listener reads none. -/
theorem identifier?_eq_splitIdentifier? (payload : String) :
    identifier? payload = splitIdentifier? payload := by
  rw [splitIdentifier?_eq, identifier?, identifierChars?_eq_tokenIdentifier?]

/-- Spaces stay as they are, in runs and at both ends of the identifier. -/
example : tokens "PLAY  a  b ".toList = ["PLAY".toList, [], ['a'], [], ['b'], []] ∧
    identifier? "PLAY  a  b " = some " a  b " := by
  decide

end Jukebox.Request
