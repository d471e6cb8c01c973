import Jukebox.Document.Basic
import Jukebox.Text.Digits

/-!
# TOML scalars

The words of a TOML document that stand for a number, a truth value or a date. A word ends where a
blank, a comma, a closing bracket or a comment begins, so each reader here has to account for the
whole of it.
-/

namespace Jukebox.Toml

open Text Decimal

/-- Blanks within a line. -/
def isSpace (c : Char) : Bool :=
  c = ' ' || c = '\t'

/-- A character that no word goes past. -/
def endsWord (c : Char) : Bool :=
  isSpace c || c = '\n' || c = '\r' || c = ',' || c = ']' || c = '\x7d' || c = '#'

/-- The digits of a number with its underscores taken out; `none` unless there is a digit at each
end and on both sides of every underscore. -/
def plainDigits? (isDigit : Char → Bool) : List Char → Option (List Char)
  | [] => none
  | [c] => if isDigit c then some [c] else none
  | c :: '_' :: rest => if isDigit c then (plainDigits? isDigit rest).map (c :: ·) else none
  | c :: rest => if isDigit c then (plainDigits? isDigit rest).map (c :: ·) else none

/-- The sign before a number, and the rest. -/
def takeSign : List Char → Bool × List Char
  | '+' :: rest => (false, rest)
  | '-' :: rest => (true, rest)
  | rest => (false, rest)

/-- Decimal digits without leading zeros. -/
def wholeDigits? (cs : List Char) : Option (List Char) :=
  match plainDigits? isDecimal cs with
  | some ['0'] => some ['0']
  | some ('0' :: _) => none
  | digits => digits

/-- An integer has 64 bits, one of them for the sign. -/
def ofInt? (n : Int) : Option Document :=
  if Int64.minValue.toInt ≤ n ∧ n ≤ Int64.maxValue.toInt then some (.integer n) else none

/-- An integer written in base 2, 8 or 16, without a sign. -/
def based? (base : Nat) (cs : List Char) : Option Document :=
  let isDigit (c : Char) : Bool := (hexValue? c).any (· < base)
  match plainDigits? isDigit cs with
  | some digits => ofInt? (ofDigits base (digits.filterMap hexValue?))
  | none => none

/-- An integer. -/
def integer? : List Char → Option Document
  | '0' :: 'x' :: rest => based? 16 rest
  | '0' :: 'o' :: rest => based? 8 rest
  | '0' :: 'b' :: rest => based? 2 rest
  | cs =>
    let (negative, rest) := takeSign cs
    match wholeDigits? rest with
    | some digits =>
      let n : Int := decimalNat digits
      ofInt? (if negative then -n else n)
    | none => none

/-- The power of ten of a float, from what follows the `e`. -/
def power? (cs : List Char) : Option Int :=
  let (negative, rest) := takeSign cs
  match plainDigits? isDecimal rest with
  | some digits =>
    let n : Int := decimalNat ((digits.dropWhile (· = '0')).take 9)
    some (if negative then -n else n)
  | none => none

/-- A float has a fraction, a power of ten or both. One too large in the positive is refused. -/
def float? (cs : List Char) : Option Document :=
  let (negative, rest) := takeSign cs
  if rest = ['i', 'n', 'f'] then some (.float (.infinite negative))
  else if rest = ['n', 'a', 'n'] then some (.float .nan)
  else
    let isE (c : Char) : Bool := c = 'e' || c = 'E'
    let mantissa := rest.takeWhile fun c => !isE c
    let behind := rest.dropWhile fun c => !isE c
    let whole := mantissa.takeWhile (· ≠ '.')
    let fraction := mantissa.dropWhile (· ≠ '.')
    let exponent? : Option Int :=
      match behind with
      | [] => if fraction.isEmpty then none else some 0
      | _ :: digits => power? digits
    let fraction? : Option (List Char) :=
      match fraction with
      | [] => some []
      | _ :: digits => plainDigits? isDecimal digits
    match wholeDigits? whole, fraction?, exponent? with
    | some w, some f, some e =>
      let x := Binary64.ofDecimal negative (decimalNat (w ++ f)) (e - f.length)
      if x = .infinite false then none else some (.float x)
    | _, _, _ => none

/-- The days of a month. -/
def daysIn (year month : Nat) : Nat :=
  if month = 2 then
    if year % 4 = 0 ∧ (year % 100 ≠ 0 ∨ year % 400 = 0) then 29 else 28
  else if month = 4 ∨ month = 6 ∨ month = 9 ∨ month = 11 then 30
  else 31

/-- The number that `width` decimal digits at the start stand for, and the rest. -/
def fixedDigits? (width : Nat) (cs : List Char) : Option (Nat × List Char) :=
  let digits := cs.take width
  if digits.length = width ∧ digits.all isDecimal then some (decimalNat digits, cs.drop width)
  else none

/-- The rest behind a given character. -/
def after? (c : Char) : List Char → Option (List Char)
  | d :: rest => if c = d then some rest else none
  | [] => none

/-- The rest behind a date. -/
def date? (cs : List Char) : Option (List Char) := do
  let (year, cs) ← fixedDigits? 4 cs
  let (month, cs) ← fixedDigits? 2 (← after? '-' cs)
  let (day, cs) ← fixedDigits? 2 (← after? '-' cs)
  if 1 ≤ month ∧ month ≤ 12 ∧ 1 ≤ day ∧ day ≤ daysIn year month then some cs else none

/-- The rest behind a time of day. -/
def timeOfDay? (cs : List Char) : Option (List Char) := do
  let (hour, cs) ← fixedDigits? 2 cs
  let (minute, cs) ← fixedDigits? 2 (← after? ':' cs)
  let (second, cs) ← fixedDigits? 2 (← after? ':' cs)
  if 23 < hour ∨ 59 < minute ∨ 60 < second then none
  match cs with
  | '.' :: rest => if (rest.takeWhile isDecimal).isEmpty then none else rest.dropWhile isDecimal
  | _ => cs

/-- The word is an offset from universal time, or nothing. -/
def isOffset (cs : List Char) : Bool :=
  match cs with
  | [] => true
  | ['Z'] | ['z'] => true
  | sign :: rest =>
    (sign = '+' || sign = '-') &&
      match fixedDigits? 2 rest with
      | some (hour, ':' :: rest) =>
        match fixedDigits? 2 rest with
        | some (minute, []) => hour ≤ 23 && minute ≤ 59
        | _ => false
      | _ => false

/-- The word is a date, a time of day, or both with an offset or without. -/
def isDatetime (cs : List Char) : Bool :=
  match date? cs with
  | some [] => true
  | some (mark :: rest) =>
    (mark = 'T' || mark = 't' || mark = ' ') && (timeOfDay? rest).any isOffset
  | none => timeOfDay? cs = some []

/-- The value that a word stands for. -/
def ofWord? (word : List Char) : Option Document :=
  if word = ['t', 'r', 'u', 'e'] then some (.boolean true)
  else if word = ['f', 'a', 'l', 's', 'e'] then some (.boolean false)
  else if isDatetime word then some .datetime
  else (float? word).or (integer? word)

/-- The word at the start of a text, and the rest. A date and a time with a space between them are
one word. -/
def takeWord (cs : List Char) : List Char × List Char :=
  let word := cs.takeWhile fun c => !endsWord c
  let rest := cs.dropWhile fun c => !endsWord c
  match date? word, rest with
  | some [], ' ' :: d :: more =>
    if isDecimal d then
      (word ++ ' ' :: (d :: more).takeWhile fun c => !endsWord c,
        (d :: more).dropWhile fun c => !endsWord c)
    else (word, rest)
  | _, _ => (word, rest)

end Jukebox.Toml
