/-!
# Substituting placeholders

`replaceAll` puts one text in place of every occurrence of another, from left to right and without
overlaps. `substitute` does so for several placeholders in a single pass, so that a text put in
is never scanned again.

Both carry a count of the characters still to be passed over, which is what makes the recursion
structural.
-/

namespace Jukebox.Text

/-- `replaceAll`, passing over the first `skip` characters, which belong to an occurrence that has
already been replaced. -/
def replaceFrom (pattern value : List Char) : Nat → List Char → List Char
  | _, [] => []
  | skip + 1, _ :: rest => replaceFrom pattern value skip rest
  | 0, c :: rest =>
    if pattern.isPrefixOf (c :: rest) then
      value ++ replaceFrom pattern value (pattern.length - 1) rest
    else
      c :: replaceFrom pattern value 0 rest

/-- Every occurrence of `pattern`, which is not empty, gives way to `value`. -/
def replaceAll (pattern value text : List Char) : List Char :=
  replaceFrom pattern value 0 text

/-- A table of placeholders, each with the text that takes its place. -/
abbrev Substitution := List (List Char × List Char)

/-- The first entry whose placeholder the text starts with. -/
def Substitution.match? (table : Substitution) (text : List Char) :
    Option (List Char × List Char) :=
  table.find? fun entry => entry.1.isPrefixOf text

/-- `substitute`, passing over the first `skip` characters. -/
def substituteFrom (table : Substitution) : Nat → List Char → List Char
  | _, [] => []
  | skip + 1, _ :: rest => substituteFrom table skip rest
  | 0, c :: rest =>
    match table.match? (c :: rest) with
    | some (placeholder, value) => value ++ substituteFrom table (placeholder.length - 1) rest
    | none => c :: substituteFrom table 0 rest

/-- One pass from left to right that puts each placeholder's text in its place. -/
def substitute (table : Substitution) (text : List Char) : List Char :=
  substituteFrom table 0 text

/-- A single placeholder is the case of a table with one entry. -/
theorem substituteFrom_singleton (pattern value text : List Char) (skip : Nat) :
    substituteFrom [(pattern, value)] skip text = replaceFrom pattern value skip text := by
  induction text generalizing skip with
  | nil => cases skip <;> rfl
  | cons c rest ih =>
    cases skip with
    | succ n => exact ih n
    | zero =>
      by_cases h : pattern.isPrefixOf (c :: rest) <;>
        simp [substituteFrom, replaceFrom, Substitution.match?, h, ih]

end Jukebox.Text
