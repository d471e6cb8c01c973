/-!
# Blank characters

The characters with the Unicode property `White_Space`, and the two questions asked of a text:
is all of it blank, and what is left once its leading blanks are gone.
-/

namespace Jukebox.Text

/-- The characters with the property `White_Space`. -/
def isBlank (c : Char) : Bool :=
  let n := c.toNat
  (9 ≤ n && n ≤ 13) || n == 0x20 || n == 0x85 || n == 0xA0 || n == 0x1680
    || (0x2000 ≤ n && n ≤ 0x200A) || n == 0x2028 || n == 0x2029 || n == 0x202F
    || n == 0x205F || n == 0x3000

/-- The text holds nothing but blanks; the empty text does. -/
def allBlank (s : String) : Bool :=
  s.toList.all isBlank

/-- What follows the leading blanks. -/
def dropBlanks (cs : List Char) : List Char :=
  cs.dropWhile isBlank

/-- Every blank of the ASCII range, and the other characters of core's class, is in the table. -/
theorem isBlank_of_isWhitespace {c : Char} (h : c.isWhitespace = true) : isBlank c = true := by
  simp only [Char.isWhitespace, Bool.or_eq_true, decide_eq_true_eq] at h
  rcases h with ((rfl | rfl) | rfl) | rfl <;> rfl

end Jukebox.Text
