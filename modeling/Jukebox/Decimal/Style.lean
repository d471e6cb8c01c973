import Jukebox.Decimal.Shortest

/-!
# Writing numbers

Two styles for a binary number, both with the fewest digits that read back. The plain one
never uses a power of ten. The scientific one does where the first digit counts less than
`10 ^ -5` or at least `10 ^ 16`.
-/

namespace Jukebox.Decimal

/-- The digits with the point in its place and at least one digit on each side of it. -/
def Digits.positional (d : Digits) : List Char :=
  if d.exponent < 0 then
    '0' :: '.' :: (List.replicate ((-d.exponent).toNat - 1) '0' ++ d.digits)
  else
    let whole := d.exponent.toNat + 1
    let left := d.digits.take whole
    let right := d.digits.drop whole
    left ++ List.replicate (whole - left.length) '0' ++
      '.' :: (if right.isEmpty then ['0'] else right)

/-- One digit before the point and the power of ten behind the others. -/
def Digits.scientific (d : Digits) : List Char :=
  let power := (toString d.exponent).toList
  let power := if 0 ≤ d.exponent then '+' :: power else power
  match d.digits with
  | [] => []
  | [first] => first :: 'e' :: power
  | first :: others => first :: '.' :: (others ++ 'e' :: power)

/-- A style is how the digits of a number are set out that is finite and not zero. -/
structure Style where
  layout : Digits → List Char

/-- Always positional. -/
def Style.plain : Style := ⟨Digits.positional⟩

/-- Positional for numbers of middling size only. -/
def Style.scientific : Style where
  layout d := if -5 ≤ d.exponent ∧ d.exponent ≤ 15 then d.positional else d.scientific

/-- The text of a number in the given style. -/
def Binary64.render (style : Style) : Binary64 → String
  | nan => "NaN"
  | infinite negative => if negative then "-inf" else "inf"
  | finite negative mantissa exponent =>
    let size := if mantissa = 0 then ['0', '.', '0'] else style.layout (shortest mantissa exponent)
    String.ofList (if negative then '-' :: size else size)

end Jukebox.Decimal
