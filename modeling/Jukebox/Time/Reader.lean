import Jukebox.Text.Blank
import Jukebox.Text.Digits
import Jukebox.Time.Instant

/-!
# Instants, read

A date and a time with an offset, in the layout of RFC 3339 but more lenient: blanks may stand
before a number and around the separators, numbers may be shorter than their fields, and a year
with a sign may have any number of digits. The offset is `Z`, `UTC`, or hours and minutes with a
sign. The sixtieth second is a leap second. Of several things wrong with a text the message names
the first one met.
-/

namespace Jukebox.Instant

open Text

/-- Why a text is no instant. -/
inductive ReadError
  /-- A number that its field does not allow. -/
  | outOfRange
  /-- A character that does not belong where it stands. -/
  | badChar
  /-- The text ends too early. -/
  | tooShort
  /-- Something follows the instant. -/
  | tooLong
  /-- In universal time the instant lies outside the calendar. -/
  | impossible
  deriving Repr, DecidableEq

/-- What is wrong with the text. -/
def ReadError.message : ReadError → String
  | outOfRange => "input is out of range"
  | badChar => "input contains invalid characters"
  | tooShort => "premature end of input"
  | tooLong => "trailing input"
  | impossible => "no possible date and time matching input"

/-- The outcome of reading: what was found, mostly together with what is left of the text. -/
abbrev Reading := Except ReadError

/-- A number of at most `width` digits; `none` for no limit. -/
def readNumber (width : Option Nat) (cs : List Char) : Reading (Nat × List Char) :=
  let window := match width with
    | some n => cs.take n
    | none => cs
  let digits := window.takeWhile isDecimal
  if cs.isEmpty then .error .tooShort
  else if digits.isEmpty then .error .badChar
  else if UInt64.size / 2 ≤ decimalNat digits then .error .outOfRange
  else .ok (decimalNat digits, cs.drop digits.length)

/-- A number of at most two digits that lies between two bounds. -/
def readField (low high : Nat) (cs : List Char) : Reading (Nat × List Char) := do
  let (n, rest) ← readNumber (some 2) (dropBlanks cs)
  if n < low ∨ high < n then .error .outOfRange
  else .ok (n, rest)

/-- A year, with a sign or of at most four digits. -/
def readYear (cs : List Char) : Reading (Int × List Char) := do
  let (year, rest) ← match dropBlanks cs with
    | '-' :: rest => (readNumber none rest).map fun (n, rest) => (-(n : Int), rest)
    | '+' :: rest => (readNumber none rest).map fun (n, rest) => ((n : Int), rest)
    | cs => (readNumber (some 4) cs).map fun (n, rest) => ((n : Int), rest)
  if year < Int32.minValue.toInt ∨ Int32.maxValue.toInt < year then .error .outOfRange
  else .ok (year, rest)

/-- A separator, behind blanks. -/
def readMark (mark : Char) (cs : List Char) : Reading (List Char) :=
  match dropBlanks cs with
  | [] => .error .tooShort
  | c :: rest => if c = mark then .ok rest else .error .badChar

/-- The mark between the date and the time. -/
def readDivider : List Char → Reading (List Char)
  | [] => .error .tooShort
  | c :: rest => if c = 't' ∨ c = 'T' ∨ c = ' ' then .ok rest else .error .badChar

/-- The fraction of a second in nanoseconds, if there is one. Digits beyond the ninth are
dropped. -/
def readFraction : List Char → Reading (Nat × List Char)
  | '.' :: rest => do
    let (n, _) ← readNumber (some 9) rest
    let digits := (rest.take 9).takeWhile isDecimal
    .ok (n * Nat.pow 10 (9 - digits.length), rest.dropWhile isDecimal)
  | cs => .ok (0, cs)

/-- Two digits, of which the first is at most `high`. -/
def readPair (high : Char) : List Char → Reading (Nat × List Char)
  | a :: b :: rest =>
    if isDecimal a ∧ isDecimal b then
      if high < a then .error .outOfRange
      else .ok (decimalValue a * 10 + decimalValue b, rest)
    else .error .badChar
  | [c] => if c.toNat < 0x80 then .error .tooShort else .error .badChar
  | [] => .error .tooShort

/-- The offset from universal time, in minutes. -/
def readOffset (cs : List Char) : Reading (Int × List Char) :=
  let hours (negative : Bool) (rest : List Char) : Reading (Int × List Char) := do
    let (hour, rest) ← readPair '9' rest
    let (minute, rest) ← readPair '5' (rest.dropWhile fun c => c = ':' || isBlank c)
    let offset : Int := hour * 60 + minute
    .ok (if negative then -offset else offset, rest)
  match cs with
  | 'Z' :: rest | 'z' :: rest => .ok (0, rest)
  | '+' :: rest => hours false rest
  | '-' :: rest | '−' :: rest => hours true rest
  | [] => .error .tooShort
  | u :: t :: c :: rest =>
    if u.toUpper = 'U' ∧ t.toUpper = 'T' ∧ c.toUpper = 'C' then .ok (0, rest)
    else .error .badChar
  | _ => .error .badChar

/-- A second by its number in a text, and the nanoseconds behind it: the sixtieth follows the
fifty-ninth. -/
def ofWritten (second nano : Nat) : Nat × Nat :=
  if second = 60 then (59, 1000000000 + nano) else (second, nano)

/-- The instant that a text stands for. -/
def readChars (cs : List Char) : Reading Instant := do
  let (year, cs) ← readYear cs
  let (month, cs) ← readField 1 12 (← readMark '-' cs)
  let (day, cs) ← readField 1 31 (← readMark '-' cs)
  let (hour, cs) ← readField 0 23 (← readDivider cs)
  let (minute, cs) ← readField 0 59 (← readMark ':' cs)
  let (second, cs) ← readField 0 60 (← readMark ':' cs)
  let (nano, cs) ← readFraction cs
  let (offset, cs) ← readOffset (dropBlanks cs)
  if ¬ (dropBlanks cs).isEmpty then .error .tooLong
  else
    match Date.of? year month day with
    | none => .error .outOfRange
    | some date =>
      let (second, nano) := ofWritten second nano
      if h : (hour * 60 + minute < 1440 ∧ second < 60) ∧ nano < 2000000000 ∧ offset.natAbs < 1440
      then
        let shown : Instant := ⟨date, ⟨_, h.1.1⟩, ⟨_, h.1.2⟩, ⟨_, h.2.1⟩⟩
        match shown.behind? offset with
        | some i => .ok i
        | none => .error .impossible
      else .error .outOfRange

/-- The instant that a text stands for. -/
def parse (text : String) : Reading Instant :=
  readChars text.toList

end Jukebox.Instant
