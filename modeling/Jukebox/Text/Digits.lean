/-!
# Digits

Decimal and hexadecimal digits, and the runs of them that the text formats here are made of.
-/

namespace Jukebox.Text

/-- A digit from 0 to 9. -/
def isDecimal (c : Char) : Bool :=
  '0' ≤ c && c ≤ '9'

/-- The value of a decimal digit. -/
def decimalValue (c : Char) : Nat :=
  c.toNat - '0'.toNat

/-- The value of a hexadecimal digit of either case. -/
def hexValue? (c : Char) : Option Nat :=
  if '0' ≤ c && c ≤ '9' then some (c.toNat - '0'.toNat)
  else if 'a' ≤ c && c ≤ 'f' then some (c.toNat - 'a'.toNat + 10)
  else if 'A' ≤ c && c ≤ 'F' then some (c.toNat - 'A'.toNat + 10)
  else none

/-- The lower-case hexadecimal digit of a value below 16. -/
def hexDigit (n : Nat) : Char :=
  if n < 10 then Char.ofNat ('0'.toNat + n) else Char.ofNat ('a'.toNat + (n - 10))

/-- The number a run of digits stands for in `base`. -/
def ofDigits (base : Nat) (digits : List Nat) : Nat :=
  digits.foldl (fun n d => n * base + d) 0

/-- The number a run of decimal digits stands for. -/
def decimalNat (cs : List Char) : Nat :=
  ofDigits 10 (cs.map decimalValue)

/-- The digits of `n` in hexadecimal, without leading zeros. -/
def hexadecimal (n : Nat) : List Char :=
  if n < 16 then [hexDigit n] else hexadecimal (n / 16) ++ [hexDigit (n % 16)]

/-- The last `width` hexadecimal digits of `n`, with leading zeros. -/
def hexPadded : Nat → Nat → List Char
  | 0, _ => []
  | width + 1, n => hexPadded width (n / 16) ++ [hexDigit (n % 16)]

/-- The last `width` decimal digits of `n`, with leading zeros. -/
def decimalPadded : Nat → Nat → List Char
  | 0, _ => []
  | width + 1, n => decimalPadded width (n / 10) ++ [Char.ofNat ('0'.toNat + n % 10)]

/-- The number that `width` hexadecimal digits at the start of a text stand for, and what follows
them; `none` where there are fewer. -/
def hexNumber? (width : Nat) (cs : List Char) : Option (Nat × List Char) :=
  let digits := cs.take width
  match digits.mapM hexValue? with
  | some values => if digits.length = width then some (ofDigits 16 values, cs.drop width) else none
  | none => none

theorem length_hexPadded (width n : Nat) : (hexPadded width n).length = width := by
  induction width generalizing n with
  | zero => rfl
  | succ w ih => simp [hexPadded, ih]

theorem length_decimalPadded (width n : Nat) : (decimalPadded width n).length = width := by
  induction width generalizing n with
  | zero => rfl
  | succ w ih => simp [decimalPadded, ih]

/-- Writing a value below 16 as a digit and reading it gives the value. -/
theorem hexValue?_hexDigit {n : Nat} (h : n < 16) : hexValue? (hexDigit n) = some n := by
  have : ∀ m : Fin 16, hexValue? (hexDigit m) = some m.val := by decide
  exact this ⟨n, h⟩

end Jukebox.Text
