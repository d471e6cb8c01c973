/-!
# Similar words

How alike two words are, from 0 to 1, by the letters they share at about the same place: the mean
of the part of each word that is shared and of the part of the shared letters that come in the same
order. Used to guess what a misspelt word was meant to be.
-/

namespace Jukebox.CommandLine

/-- Marks the letters of a word that a list of letters with their places shares with it: from left
to right, each letter takes the first free one that is equal to it and at most `reach` places away.
The outcome are the letters that found one, and the word with marks. -/
def share (reach : Nat) :
    List (Char × Nat) → List (Char × Bool) → List Char × List (Char × Bool)
  | [], word => ([], word)
  | (c, place) :: rest, word =>
    let free (other : (Char × Bool) × Nat) : Bool :=
      other.1 = (c, false) && place ≤ other.2 + reach && other.2 ≤ place + reach
    match word.zipIdx.find? free with
    | none => share reach rest word
    | some (_, found) =>
      let (shared, word) := share reach rest (word.set found (c, true))
      (c :: shared, word)

/-- How alike two words are. -/
def similarity (a b : List Char) : Float :=
  if a.isEmpty ∧ b.isEmpty then 1
  else
    let reach := max a.length b.length / 2 - 1
    let (fromA, marked) := share reach a.zipIdx (b.map fun c => (c, false))
    let fromB := (marked.filter Prod.snd).map Prod.fst
    let moved := ((fromA.zip fromB).filter fun (x, y) => x ≠ y).length / 2
    let shared := fromA.length
    if shared = 0 then 0
    else
      (shared.toFloat / a.length.toFloat + shared.toFloat / b.length.toFloat +
        (shared - moved).toFloat / shared.toFloat) / 3

/-- Words that are less alike than this are not taken for one another. -/
def leastLikeness : Float := 0.7

/-- The candidate that is most like a word, if one is like it enough; of several the last. -/
def closest? {α : Type} (name : α → String) (candidates : List α) (word : String) : Option α :=
  let likeness (candidate : α) : Float := similarity word.toList (name candidate).toList
  (candidates.filter fun candidate => decide (leastLikeness < likeness candidate)).foldl
    (fun best candidate =>
      match best with
      | none => some candidate
      | some other => if likeness other ≤ likeness candidate then some candidate else some other)
    none

end Jukebox.CommandLine
