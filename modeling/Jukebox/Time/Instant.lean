/-!
# Instants

A point in time as the calendar and the clock of universal time show it, down to the nanosecond.
Years run from -262143 to 262142.

A leap second has no number of its own. It is counted on in the second that it follows, whose
nanoseconds then go beyond the thousand million of a second; and it may follow any second. In a text
it does have a number, the next one. So a text can tell a leap second from an ordinary second only
where the minute ends and the number is sixty (`Instant.Told`).

Moving an instant by less than a day changes its date by at most one day, so the calendar is needed
only for the day before and the day after.
-/

namespace Jukebox

/-- A year of 366 days. -/
def isLeapYear (year : Int) : Bool :=
  year % 4 = 0 && (year % 100 ≠ 0 || year % 400 = 0)

/-- The days of a month, numbered from 1. -/
def daysInMonth (year : Int) (month : Nat) : Nat :=
  match month with
  | 2 => if isLeapYear year then 29 else 28
  | 4 | 6 | 9 | 11 => 30
  | _ => 31

/-- A day of the calendar. -/
structure Date where
  year : Int
  month : Nat
  day : Nat
  year_ge : -262143 ≤ year
  year_le : year ≤ 262142
  month_range : 1 ≤ month ∧ month ≤ 12
  day_range : 1 ≤ day ∧ day ≤ daysInMonth year month
  deriving DecidableEq

/-- The day with the given numbers, if the calendar has it. -/
def Date.of? (year : Int) (month day : Nat) : Option Date :=
  if h : (-262143 ≤ year ∧ year ≤ 262142) ∧ (1 ≤ month ∧ month ≤ 12) ∧
      1 ≤ day ∧ day ≤ daysInMonth year month then
    some ⟨year, month, day, h.1.1, h.1.2, h.2.1, h.2.2⟩
  else none

/-- The day after, if the calendar goes on. -/
def Date.next? (d : Date) : Option Date :=
  if d.day < daysInMonth d.year d.month then of? d.year d.month (d.day + 1)
  else if d.month < 12 then of? d.year (d.month + 1) 1
  else of? (d.year + 1) 1 1

/-- The day before, if the calendar goes back that far. -/
def Date.previous? (d : Date) : Option Date :=
  if 1 < d.day then of? d.year d.month (d.day - 1)
  else if 1 < d.month then of? d.year (d.month - 1) (daysInMonth d.year (d.month - 1))
  else of? (d.year - 1) 12 31

/-- A point in time. -/
structure Instant where
  date : Date
  /-- The minutes since midnight. -/
  minute : Fin 1440
  second : Fin 60
  /-- The nanoseconds since the start of the second. From a thousand million on they are those of a
  leap second that follows it. -/
  nano : Fin 2000000000
  deriving DecidableEq

namespace Instant

/-- It lies in a leap second. -/
abbrev Leaps (i : Instant) : Prop := 1000000000 ≤ i.nano.val

/-- A text tells which instant it is: it lies in no leap second, or in one that ends a minute. -/
abbrev Told (i : Instant) : Prop := i.Leaps → i.second.val = 59

/-- The instant that the text of an instant tells. A leap second within a minute passes for the
second after the one that it follows. -/
def asTold (i : Instant) : Instant :=
  if h : i.Leaps ∧ i.second.val < 59 then
    { i with second := ⟨i.second.val + 1, by omega⟩, nano := ⟨i.nano.val - 1000000000, by omega⟩ }
  else i

end Instant

/-- The instant that clocks ahead of universal time by `offset` minutes show as `i`. -/
def Instant.behind? (i : Instant) (offset : Int) : Option Instant :=
  let minutes : Int := i.minute.val - offset
  if h : 0 ≤ minutes ∧ minutes < 1440 then
    some { i with minute := ⟨minutes.toNat, by omega⟩ }
  else if h : minutes < 0 ∧ -1440 ≤ minutes then
    i.date.previous?.map fun date => { i with date, minute := ⟨(minutes + 1440).toNat, by omega⟩ }
  else if h : 1440 ≤ minutes ∧ minutes < 2880 then
    i.date.next?.map fun date => { i with date, minute := ⟨(minutes - 1440).toNat, by omega⟩ }
  else none

/-- A clock on universal time shows the instant itself. -/
@[simp] theorem Instant.behind?_zero (i : Instant) : i.behind? 0 = some i := by
  have := i.minute.isLt
  unfold behind?
  simp only [Int.sub_zero]
  rw [dif_pos (by omega)]
  simp

/-- Every day is the one that its numbers name. -/
@[simp] theorem Date.of?_self (d : Date) : of? d.year d.month d.day = some d := by
  simp [of?, d.year_ge, d.year_le, d.month_range, d.day_range]

/-- The start of 1970. -/
def Instant.epoch : Instant where
  date := ⟨1970, 1, 1, by omega, by omega, by omega, by decide⟩
  minute := 0
  second := 0
  nano := 0

end Jukebox
