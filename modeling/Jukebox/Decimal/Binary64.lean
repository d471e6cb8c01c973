/-!
# Binary floating point, exactly

The numbers of the 64-bit binary format as exact values. A quotient of natural numbers is rounded
to the nearest of them, and a quotient halfway between two goes to the one with the even mantissa.
Products and quotients of numbers are the exact ones, rounded once.
-/

namespace Jukebox.Decimal

/-- A number of the 64-bit binary format. -/
inductive Binary64
  /-- Not a number. -/
  | nan
  /-- Beyond the largest finite number, on the side of the given sign. -/
  | infinite (negative : Bool)
  /-- The value `mantissa * 2 ^ exponent`, where the mantissa has 53 binary digits unless the
  exponent is the least one, -1074. -/
  | finite (negative : Bool) (mantissa : Nat) (exponent : Int)
  deriving Repr, DecidableEq

/-- The quotient rounded to the nearest integer, a half to the even one. -/
def roundHalfEven (num den : Nat) : Nat :=
  let below := num / den
  let twice := 2 * (num % den)
  if twice < den then below
  else if twice = den then below + below % 2
  else below + 1

/-- The quotient is never more than half a unit away from what it is rounded to. -/
theorem roundHalfEven_near {num den : Nat} (h : 0 < den) :
    2 * num ≤ (2 * roundHalfEven num den + 1) * den ∧
      2 * roundHalfEven num den * den ≤ 2 * num + den := by
  have hd := Nat.div_add_mod num den
  have hm := Nat.mod_lt num h
  unfold roundHalfEven
  generalize num / den = f at *
  generalize num % den = r at *
  subst hd
  have e1 : 2 * (den * f + r) = 2 * f * den + 2 * r := by
    rw [Nat.mul_add, Nat.mul_comm den f, Nat.mul_assoc]
  have e2 : ∀ k, 2 * (f + k) * den = 2 * f * den + 2 * k * den := fun k => by
    rw [Nat.mul_add, Nat.add_mul]
  have e3 : ∀ k, (2 * (f + k) + 1) * den = 2 * f * den + 2 * k * den + den := fun k => by
    rw [Nat.add_mul, e2, Nat.one_mul]
  simp only []
  split
  · have := e3 0; have := e2 0; simp at *; omega
  · split
    · rcases Nat.mod_two_eq_zero_or_one f with hf | hf <;> rw [hf]
      · have := e3 0; have := e2 0; simp at *; omega
      · have := e3 1; have := e2 1; simp at *; omega
    · have := e3 1; have := e2 1; simp at *; omega

/-- `num * 2 ^ (- exponent) / den` as a quotient of natural numbers. -/
def shifted (num den : Nat) (exponent : Int) : Nat × Nat :=
  (num * Nat.pow 2 (-exponent).toNat, den * Nat.pow 2 exponent.toNat)

namespace Binary64

/-- The exponent that gives the quotient a mantissa of 53 binary digits, or the least one. -/
def exponentFor (num den : Nat) : Int :=
  let low := max ((Nat.log2 num : Int) - Nat.log2 den - 53) (-1074)
  let (n, d) := shifted num den low
  if Nat.pow 2 53 ≤ n / d then low + 1 else low

/-- The number nearest to `num / den`, where `den` is positive. -/
def ofRatio (negative : Bool) (num den : Nat) : Binary64 :=
  if num = 0 then finite negative 0 (-1074)
  else
    let exponent := exponentFor num den
    let (n, d) := shifted num den exponent
    let mantissa := roundHalfEven n d
    let (mantissa, exponent) :=
      if mantissa = Nat.pow 2 53 then (Nat.pow 2 52, exponent + 1) else (mantissa, exponent)
    if exponent > 971 then infinite negative else finite negative mantissa exponent

/-- The number nearest to `digits * 10 ^ exponent`. Exponents that no mantissa of that many digits
can bring back into range are settled without the power of ten. -/
def ofDecimal (negative : Bool) (digits : Nat) (exponent : Int) : Binary64 :=
  if digits = 0 then finite negative 0 (-1074)
  else if exponent > 400 then infinite negative
  else if exponent + Nat.log2 digits < -400 then finite negative 0 (-1074)
  else ofRatio negative (digits * Nat.pow 10 exponent.toNat) (Nat.pow 10 (-exponent).toNat)

/-- The size of a finite number as a quotient; zero for the others. -/
def ratio : Binary64 → Nat × Nat
  | finite _ mantissa exponent =>
    (mantissa * Nat.pow 2 exponent.toNat, Nat.pow 2 (-exponent).toNat)
  | _ => (0, 1)

/-- The product of two sizes, rounded. -/
def times (x y : Binary64) : Binary64 :=
  let (n, d) := x.ratio
  let (n', d') := y.ratio
  ofRatio false (n * n') (d * d')

/-- The quotient of two sizes, rounded; the divisor is not zero. -/
def dividedBy (x y : Binary64) : Binary64 :=
  let (n, d) := x.ratio
  let (n', d') := y.ratio
  ofRatio false (n * d') (d * n')

/-- The number is neither infinite nor undefined. -/
def isFinite : Binary64 → Bool
  | finite .. => true
  | _ => false

/-- The number with its sign chosen. -/
def withSign (negative : Bool) : Binary64 → Binary64
  | nan => nan
  | infinite _ => infinite negative
  | finite _ mantissa exponent => finite negative mantissa exponent

end Binary64

end Jukebox.Decimal
