import Jukebox.Decimal.Binary64

/-!
# The fewest digits that read back

The decimal text of a binary number is the shortest one that reads back as that number, and of
several equally short ones the nearest. Every real between the two midpoints around the number
reads back as it, the midpoints included when the mantissa is even. For 1, 2, … 17 digits the
number's two neighbours on that decimal grid are tried, in exact arithmetic; the first grid with a
neighbour inside wins.
-/

namespace Jukebox.Decimal

/-- A positive decimal number: its digits, the first of them not zero, and the power of ten that
the first one counts. -/
structure Digits where
  digits : List Char
  exponent : Int
  deriving Repr, DecidableEq

/-- The number of decimal digits of a natural number. -/
def digitCount (n : Nat) : Nat :=
  (Nat.toDigits 10 n).length

/-- How many times `num` has to be multiplied by ten to reach `den`, at most `fuel` times. -/
def placesBelowOne : Nat → Nat → Nat → Nat
  | 0, _, _ => 0
  | fuel + 1, num, den => if den ≤ num then 0 else placesBelowOne fuel (num * 10) den + 1

/-- The power of ten of the first digit of `num / den`, a quotient above `10 ^ -400`. -/
def leadingExponent (num den : Nat) : Int :=
  if den ≤ num then (digitCount (num / den) : Int) - 1 else -(placesBelowOne 400 num den : Int)

/-- The reals that read back as `mantissa * 2 ^ exponent`, counted in quarters of the last binary
place: the lower end, the number itself, the upper end, and whether the ends belong to them. -/
structure Span where
  low : Nat
  value : Nat
  high : Nat
  closed : Bool

/-- The span of a number. The one below a power of two is half as far away as the one above. -/
def spanOf (mantissa : Nat) (exponent : Int) : Span where
  low := if mantissa = Nat.pow 2 52 ∧ exponent > -1074 then 4 * mantissa - 1 else 4 * mantissa - 2
  value := 4 * mantissa
  high := 4 * mantissa + 2
  closed := mantissa % 2 = 0

/-- The point of the grid of `10 ^ place` that reads back, if one of the two around the number
does. `quarter` is the quarter of the last binary place as a quotient. -/
def Span.onGrid? (span : Span) (quarter : Nat × Nat) (place : Int) : Option Nat :=
  let step := Nat.pow 10 place.toNat * quarter.2
  let unit := quarter.1 * Nat.pow 10 (-place).toNat
  let inside (c : Nat) : Bool :=
    if span.closed then span.low * unit ≤ c * step && c * step ≤ span.high * unit
    else span.low * unit < c * step && c * step < span.high * unit
  let below := span.value * unit / step
  let belowGap := span.value * unit - below * step
  let aboveGap := (below + 1) * step - span.value * unit
  match inside below, inside (below + 1) with
  | true, true =>
    if belowGap < aboveGap ∨ (belowGap = aboveGap ∧ below % 2 = 0) then some below
    else some (below + 1)
  | true, false => some below
  | false, true => some (below + 1)
  | false, false => none

/-- The digits of `n` without the zeros at its end. -/
def significant (n : Nat) : List Char :=
  ((Nat.toDigits 10 n).reverse.dropWhile (· = '0')).reverse

/-- The fewest digits that read back as `mantissa * 2 ^ exponent`, which is not zero. -/
def shortest (mantissa : Nat) (exponent : Int) : Digits :=
  let span := spanOf mantissa exponent
  let quarter := (Nat.pow 2 (exponent - 2).toNat, Nat.pow 2 (2 - exponent).toNat)
  let first :=
    leadingExponent (mantissa * Nat.pow 2 exponent.toNat) (Nat.pow 2 (-exponent).toNat)
  let hit := (List.range 17).findSome? fun (k : Nat) =>
    let place := first - k
    (span.onGrid? quarter place).map fun c =>
      { digits := significant c, exponent := place + digitCount c - 1 : Digits }
  hit.getD ⟨['0'], 0⟩

end Jukebox.Decimal
