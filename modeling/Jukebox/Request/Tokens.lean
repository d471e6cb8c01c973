import Jukebox.Request.Basic

/-!
# Requests token by token

The rule for identifiers as listeners know it: split the text at every single space, look at the
first token, and join the others again with single spaces. `Request.identifier?` gets the same
from the first space alone.
-/

namespace Jukebox.Request

/-- The tokens between single spaces. Two spaces in a row have an empty token between them, and a
text without spaces is one token. -/
def tokens : List Char → List (List Char)
  | [] => [[]]
  | c :: rest =>
    if c = ' ' then [] :: tokens rest
    else
      match tokens rest with
      | [] => [[c]]
      | token :: others => (c :: token) :: others

/-- The tokens with a single space between each and the next. -/
def rejoin : List (List Char) → List Char
  | [] => []
  | [token] => token
  | token :: others => token ++ ' ' :: rejoin others

/-- The identifier read token by token. -/
def tokenIdentifier? (payload : List Char) : Option (List Char) :=
  match tokens payload with
  | [] => none
  | word :: others =>
    if word = playWord ∧ rejoin others ≠ [] then some (rejoin others) else none

theorem tokens_ne_nil (text : List Char) : tokens text ≠ [] := by
  cases text with
  | nil => simp [tokens]
  | cons c cs =>
    rw [tokens]
    split
    · simp
    · split <;> simp

/-- Joining the tokens gives the text back. -/
theorem rejoin_tokens (text : List Char) : rejoin (tokens text) = text := by
  induction text with
  | nil => rfl
  | cons c cs ih =>
    rw [tokens]
    split
    · rename_i hc
      subst hc
      cases h : tokens cs with
      | nil => exact absurd h (tokens_ne_nil cs)
      | cons t ts => rw [h] at ih; simp [rejoin, ih]
    · split
      · rename_i h; exact absurd h (tokens_ne_nil cs)
      · rename_i t ts h
        rw [h] at ih
        cases ts <;> simp_all [rejoin]

end Jukebox.Request
