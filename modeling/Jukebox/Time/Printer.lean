import Jukebox.Text.Digits
import Jukebox.Time.Instant

/-!
# Instants, written

An instant is written as `2024-01-15T10:30:00.123Z`. Years outside 0 to 9999 have a sign and at
least four digits. The fraction has as many digits as it needs of none, three, six or nine. A leap
second is written under the number of the next second.
-/

namespace Jukebox.Instant

open Text

/-- A year. -/
def yearChars (year : Int) : List Char :=
  if 0 ≤ year ∧ year ≤ 9999 then decimalPadded 4 year.toNat
  else
    let size := (toString year.natAbs).toList
    (if year < 0 then '-' else '+') :: (List.replicate (4 - size.length) '0' ++ size)

/-- The fraction of a second. -/
def fractionChars (nano : Nat) : List Char :=
  if nano = 0 then []
  else if nano % 1000000 = 0 then '.' :: decimalPadded 3 (nano / 1000000)
  else if nano % 1000 = 0 then '.' :: decimalPadded 6 (nano / 1000)
  else '.' :: decimalPadded 9 nano

/-- The number of the second under which an instant is written. -/
def writtenSecond (i : Instant) : Nat :=
  if i.Leaps then i.second.val + 1 else i.second.val

/-- The nanoseconds of the fraction under which an instant is written. -/
def writtenNano (i : Instant) : Nat :=
  if i.Leaps then i.nano.val - 1000000000 else i.nano.val

/-- The text of an instant. -/
def chars (i : Instant) : List Char :=
  yearChars i.date.year ++
    '-' :: (decimalPadded 2 i.date.month ++
    '-' :: (decimalPadded 2 i.date.day ++
    'T' :: (decimalPadded 2 (i.minute.val / 60) ++
    ':' :: (decimalPadded 2 (i.minute.val % 60) ++
    ':' :: (decimalPadded 2 i.writtenSecond ++
    (fractionChars i.writtenNano ++ ['Z']))))))

/-- The text of an instant. -/
def render (i : Instant) : String :=
  String.ofList i.chars

end Jukebox.Instant
