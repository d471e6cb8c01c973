import Jukebox.Proofs.Text.Digits
import Jukebox.Time.Printer
import Jukebox.Time.Reader
import Mathlib.Data.List.TakeWhile

/-!
# Instants, written and read

The text of an instant is read as the instant that it tells (`parse_render`), for every year of the
calendar, every fraction of a second and every leap second. Any other fraction and any zone is read
too (`parse_spelled`); and whatever text is read, the instant is one that its text tells
(`told_of_parse`).

The reader is lenient, so what it makes of a text depends on where each number ends. The numbers of
a text that was written are always followed by a character that is no digit (`Stops`), and none of
them is as large as the reader's limit. Each reader of a part is stated with what follows the part.
-/

namespace Jukebox

/-- A computation succeeds by its first step and what comes after that. -/
theorem bind_eq_ok_iff {ε α β : Type} {x : Except ε α} {next : α → Except ε β} {b : β} :
    (x >>= next) = .ok b ↔ ∃ a, x = .ok a ∧ next a = .ok b := by
  cases x <;> simp [bind, Except.bind]

namespace Instant

open Text

variable {rest : List Char}

/-! ## Numbers -/

theorem isBlank_of_isDecimal {c : Char} (h : isDecimal c = true) : isBlank c = false := by
  rw [isDecimal_eq_isDigit, Char.isDigit, Bool.and_eq_true, decide_eq_true_eq, decide_eq_true_eq]
    at h
  have hlow : 48 ≤ c.toNat := h.1
  have hhigh : c.toNat ≤ 57 := h.2
  rw [Bool.eq_false_iff]
  intro hblank
  simp only [isBlank, Bool.or_eq_true, Bool.and_eq_true, decide_eq_true_eq, beq_iff_eq] at hblank
  omega

/-- What is seen of a run of digits through a window is its beginning, whatever follows it. -/
theorem takeWhile_window {digits : List Char} (hdigits : ∀ c ∈ digits, isDecimal c = true)
    (hrest : Stops isDecimal rest) (width : Nat) :
    ((digits ++ rest).take width).takeWhile isDecimal = digits.take width := by
  rw [List.take_append]
  refine takeWhile_append_of_stops (fun c hc => hdigits c (List.mem_of_mem_take hc)) ?_
  cases rest with
  | nil => simp
  | cons c rest =>
    cases width - digits.length with
    | zero => simp
    | succ k => simpa using hrest

/-- A run of digits is read as its number. -/
theorem readNumber_append (width : Option Nat) {digits : List Char}
    (hdigits : ∀ c ∈ digits, isDecimal c = true) (hne : digits ≠ [])
    (hwidth : ∀ n ∈ width, digits.length ≤ n) (hlimit : decimalNat digits < UInt64.size / 2)
    (hrest : Stops isDecimal rest) :
    readNumber width (digits ++ rest) = .ok (decimalNat digits, rest) := by
  have hnonempty : ¬ (digits ++ rest).isEmpty = true := by simp [hne]
  have hsome : ¬ digits.isEmpty = true := by simp [hne]
  cases width with
  | none =>
    simp only [readNumber, takeWhile_append_of_stops hdigits hrest, if_neg hnonempty, if_neg hsome,
      if_neg (Nat.not_le_of_lt hlimit), List.drop_left]
  | some n =>
    have hwindow : ((digits ++ rest).take n).takeWhile isDecimal = digits := by
      rw [takeWhile_window hdigits hrest, List.take_of_length_le (hwidth n rfl)]
    simp only [readNumber, hwindow, if_neg hnonempty, if_neg hsome,
      if_neg (Nat.not_le_of_lt hlimit), List.drop_left]

theorem exists_decimalPadded_eq_cons (width n : Nat) :
    ∃ d digits, decimalPadded (width + 1) n = d :: digits ∧ isDecimal d = true := by
  have hlength := length_decimalPadded (width + 1) n
  cases hdigits : decimalPadded (width + 1) n with
  | nil =>
    rw [hdigits] at hlength
    cases hlength
  | cons d digits =>
    exact ⟨d, digits, rfl, isDecimal_of_mem_decimalPadded (hdigits ▸ List.mem_cons_self)⟩

theorem dropBlanks_decimalPadded (width n : Nat) (rest : List Char) :
    dropBlanks (decimalPadded (width + 1) n ++ rest) = decimalPadded (width + 1) n ++ rest := by
  obtain ⟨d, digits, hdigits, hd⟩ := exists_decimalPadded_eq_cons width n
  rw [hdigits, dropBlanks, List.cons_append, List.dropWhile_cons_of_neg]
  simp [isBlank_of_isDecimal hd]

/-- A number written with a fixed number of digits is read where at least as many are allowed. -/
theorem readNumber_decimalPadded {width n : Nat} (hn : n < 10 ^ (width + 1))
    (hlimit : n < UInt64.size / 2) {allowed : Nat} (hallowed : width + 1 ≤ allowed)
    (hrest : Stops isDecimal rest) :
    readNumber (some allowed) (decimalPadded (width + 1) n ++ rest) = .ok (n, rest) := by
  have hvalue := decimalNat_decimalPadded hn
  have hne : decimalPadded (width + 1) n ≠ [] := by
    obtain ⟨d, digits, hdigits, -⟩ := exists_decimalPadded_eq_cons width n
    rw [hdigits]
    exact List.cons_ne_nil d digits
  have hread := readNumber_append (some allowed) (fun _ => isDecimal_of_mem_decimalPadded) hne
    (by rintro m ⟨⟩; rwa [length_decimalPadded]) (by rwa [hvalue]) hrest
  rw [hread, hvalue]

theorem readField_decimalPadded {low high n : Nat} (hlow : low ≤ n) (hhigh : n ≤ high)
    (hn : n < 100) (hrest : Stops isDecimal rest) :
    readField low high (decimalPadded 2 n ++ rest) = .ok (n, rest) := by
  have hread : readNumber (some 2) (decimalPadded 2 n ++ rest) = .ok (n, rest) :=
    readNumber_decimalPadded hn (Nat.lt_trans hn (by decide)) (Nat.le_refl 2) hrest
  rw [readField, dropBlanks_decimalPadded, hread]
  exact if_neg (by omega)

/-! ## Years -/

theorem decimalNat_zeros_append (k : Nat) (cs : List Char) :
    decimalNat (List.replicate k '0' ++ cs) = decimalNat cs := by
  induction k with
  | zero => rfl
  | succ k ih => exact ih

/-- A year of four digits. -/
theorem readYear_decimalPadded {n : Nat} (hn : n < 10 ^ 4) (hrest : Stops isDecimal rest) :
    readYear (decimalPadded 4 n ++ rest) = .ok ((n : Int), rest) := by
  have hread : readNumber (some 4) (decimalPadded 4 n ++ rest) = .ok (n, rest) :=
    readNumber_decimalPadded hn (Nat.lt_trans hn (by decide)) (Nat.le_refl 4) hrest
  obtain ⟨d, digits, hdigits, hd⟩ := exists_decimalPadded_eq_cons 3 n
  rw [readYear, dropBlanks_decimalPadded]
  rw [hdigits] at hread ⊢
  split
  · rename_i heq
    rw [List.head_eq_of_cons_eq heq] at hd
    exact absurd hd (by decide)
  · rename_i heq
    rw [List.head_eq_of_cons_eq heq] at hd
    exact absurd hd (by decide)
  · rw [hread]
    refine if_neg ?_
    simp [Int32.toInt]
    omega

/-- A year with a sign and any number of leading zeros. -/
theorem readYear_signed {year : Int} (hyear : year.natAbs < 10 ^ 6) (zeros : Nat)
    (hrest : Stops isDecimal rest) :
    readYear ((if year < 0 then '-' else '+') ::
      (List.replicate zeros '0' ++ Nat.toDigits 10 year.natAbs ++ rest)) = .ok (year, rest) := by
  have hvalue : decimalNat (List.replicate zeros '0' ++ Nat.toDigits 10 year.natAbs) =
      year.natAbs := by
    rw [decimalNat_zeros_append, decimalNat_toDigits]
  have hdigits : ∀ c ∈ List.replicate zeros '0' ++ Nat.toDigits 10 year.natAbs,
      isDecimal c = true := by
    intro c hc
    rcases List.mem_append.1 hc with hc | hc
    · rw [List.eq_of_mem_replicate hc]
      rfl
    · exact isDecimal_of_mem_toDigits hc
  have hread := readNumber_append none hdigits (by simp [Nat.toDigits_ne_nil]) (by simp)
    (by rw [hvalue]; exact Nat.lt_trans hyear (by decide)) hrest
  rw [hvalue] at hread
  have hlimit : ¬ (year < Int32.minValue.toInt ∨ Int32.maxValue.toInt < year) := by
    have hmin : Int32.minValue.toInt = -2147483648 := by decide
    have hmax : Int32.maxValue.toInt = 2147483647 := by decide
    omega
  split
  · have hsigned : -(year.natAbs : Int) = year := by omega
    rw [readYear, dropBlanks, List.dropWhile_cons_of_neg (by decide)]
    simp only [hread, Except.map, hsigned]
    exact if_neg hlimit
  · have hsigned : (year.natAbs : Int) = year := by omega
    rw [readYear, dropBlanks, List.dropWhile_cons_of_neg (by decide)]
    simp only [hread, Except.map, hsigned]
    exact if_neg hlimit

/-- Every year of the calendar is read from its text. -/
theorem readYear_yearChars {year : Int} (hlow : -262143 ≤ year) (hhigh : year ≤ 262142)
    (hrest : Stops isDecimal rest) : readYear (yearChars year ++ rest) = .ok (year, rest) := by
  rw [yearChars]
  split
  · have hyear : ((year.toNat : Nat) : Int) = year := by omega
    rw [readYear_decimalPadded (by omega) hrest, hyear]
  · simp only [Nat.toString_eq_repr, Nat.toList_repr]
    exact readYear_signed (by omega) _ hrest

/-! ## Fractions -/

/-- The nanoseconds that the digits of a fraction stand for. Those beyond the ninth do not count. -/
def nanosOf (digits : List Char) : Nat :=
  decimalNat (digits.take 9) * 10 ^ (9 - (digits.take 9).length)

/-- A fraction is read with any number of digits. -/
theorem readFraction_cons {digits : List Char} (hdigits : ∀ c ∈ digits, isDecimal c = true)
    (hne : digits ≠ []) (hrest : Stops isDecimal rest) :
    readFraction ('.' :: (digits ++ rest)) = .ok (nanosOf digits, rest) := by
  have hwindow := takeWhile_window hdigits hrest 9
  have hnonempty : ¬ (digits ++ rest).isEmpty = true := by simp [hne]
  have hsome : ¬ (digits.take 9).isEmpty = true := by simp [hne]
  have hlimit : ¬ UInt64.size / 2 ≤ decimalNat (digits.take 9) := by
    have hvalue : decimalNat (digits.take 9) < 10 ^ (digits.take 9).length :=
      decimalNat_lt fun c hc => hdigits c (List.mem_of_mem_take hc)
    have hplaces : 10 ^ (digits.take 9).length ≤ 10 ^ 9 :=
      Nat.pow_le_pow_right (by decide) (List.length_take_le 9 digits)
    have hsize : 10 ^ 9 ≤ UInt64.size / 2 := by decide
    omega
  simp only [readFraction, readNumber, hwindow, if_neg hnonempty, if_neg hsome, if_neg hlimit,
    dropWhile_append_of_stops hdigits hrest]
  rfl

theorem nanosOf_decimalPadded {width n : Nat} (hwidth : width ≤ 9) (hn : n < 10 ^ width) :
    nanosOf (decimalPadded width n) = n * 10 ^ (9 - width) := by
  have hlength := length_decimalPadded width n
  rw [nanosOf, List.take_of_length_le (by omega), decimalNat_decimalPadded hn, hlength]

/-- The fraction of a time is read as it was written. -/
theorem readFraction_fractionChars {nano : Nat} (hnano : nano < 1000000000)
    (hrest : Stops isDecimal rest) (hpoint : rest.head? ≠ some '.') :
    readFraction (fractionChars nano ++ rest) = .ok (nano, rest) := by
  have hread (width n : Nat) (hwidth : width + 1 ≤ 9) (hn : n < 10 ^ (width + 1))
      (hvalue : n * 10 ^ (9 - (width + 1)) = nano) :
      readFraction ('.' :: decimalPadded (width + 1) n ++ rest) = .ok (nano, rest) := by
    have hne : decimalPadded (width + 1) n ≠ [] := by
      obtain ⟨d, digits, hdigits, -⟩ := exists_decimalPadded_eq_cons width n
      rw [hdigits]
      exact List.cons_ne_nil d digits
    rw [List.cons_append, readFraction_cons (fun _ => isDecimal_of_mem_decimalPadded) hne hrest,
      nanosOf_decimalPadded hwidth hn, hvalue]
  rw [fractionChars]
  split
  · rename_i hzero
    rw [hzero, List.nil_append, readFraction.eq_def]
    split
    · exact absurd rfl hpoint
    · rfl
  · split
    · exact hread 2 (nano / 1000000) (by decide) (by omega) (by omega)
    · split
      · exact hread 5 (nano / 1000) (by decide) (by omega) (by omega)
      · exact hread 8 nano (by decide) (by omega) (by omega)

/-- What follows the seconds is no digit. -/
theorem stops_fractionChars (nano : Nat) (hrest : Stops isDecimal rest) :
    Stops isDecimal (fractionChars nano ++ rest) := by
  rw [fractionChars]
  split
  · exact hrest
  · split
    · exact stops_cons.2 rfl
    · split <;> exact stops_cons.2 rfl

/-! ## Zones -/

/-- The zone whose clocks are ahead of universal time, or behind it, by some hours and minutes. -/
def zoneChars (ahead : Bool) (hour minute : Nat) : List Char :=
  (if ahead then '+' else '-') :: (decimalPadded 2 hour ++ ':' :: decimalPadded 2 minute)

/-- The minutes by which the clocks of a zone are ahead of universal time. -/
def zoneOffset (ahead : Bool) (hour minute : Nat) : Int :=
  if ahead then hour * 60 + minute else -(hour * 60 + minute)

theorem readPair_decimalPadded {high : Char} {n : Nat} (hn : n < 100)
    (hhigh : ¬ high < Char.ofNat ('0'.toNat + n / 10 % 10)) :
    readPair high (decimalPadded 2 n ++ rest) = .ok (n, rest) := by
  have hfirst := decimal_last (n / 10)
  have hsecond := decimal_last n
  have hvalue : n / 10 % 10 * 10 + n % 10 = n := by omega
  rw [decimalPadded, decimalPadded, decimalPadded, List.nil_append, List.append_assoc,
    List.singleton_append, List.singleton_append, readPair, if_pos ⟨hfirst.1, hsecond.1⟩,
    if_neg hhigh, hfirst.2, hsecond.2, hvalue]

/-- The zone of a time is read, with any number of hours that has two digits. -/
theorem readOffset_zoneChars (ahead : Bool) {hour minute : Nat} (hhour : hour < 100)
    (hminute : minute < 60) :
    readOffset (dropBlanks (zoneChars ahead hour minute)) =
      .ok (zoneOffset ahead hour minute, []) := by
  have hnine : ∀ d : Fin 10, ¬ '9' < Char.ofNat ('0'.toNat + d.val) := by decide
  have hfive : ∀ d : Fin 6, ¬ '5' < Char.ofNat ('0'.toNat + d.val) := by decide
  have hhours : readPair '9' (decimalPadded 2 hour ++ ':' :: decimalPadded 2 minute) =
      .ok (hour, ':' :: decimalPadded 2 minute) :=
    readPair_decimalPadded hhour (hnine ⟨hour / 10 % 10, Nat.mod_lt _ (by decide)⟩)
  have hminutes : readPair '5' (decimalPadded 2 minute) = .ok (minute, []) := by
    have hpair : readPair '5' (decimalPadded 2 minute ++ []) = .ok (minute, []) :=
      readPair_decimalPadded (by omega) (hfive ⟨minute / 10 % 10, by omega⟩)
    rwa [List.append_nil] at hpair
  have hcolon : (':' :: decimalPadded 2 minute).dropWhile (fun c => c = ':' || isBlank c) =
      decimalPadded 2 minute := by
    obtain ⟨d, digits, hdigits, hd⟩ := exists_decimalPadded_eq_cons 1 minute
    have hne : d ≠ ':' := by
      rintro rfl
      exact absurd hd (by decide)
    rw [List.dropWhile_cons_of_pos (by decide), hdigits, List.dropWhile_cons_of_neg]
    simp [hne, isBlank_of_isDecimal hd]
  have hsign (sign : Char) (hblank : isBlank sign = false) (rest : List Char) :
      dropBlanks (sign :: rest) = sign :: rest := by
    rw [dropBlanks, List.dropWhile_cons_of_neg (by simp [hblank])]
  cases ahead
  · rw [zoneChars, if_neg Bool.false_ne_true, hsign '-' rfl]
    simp only [readOffset, bind, Except.bind, hhours, hcolon, hminutes]
    rfl
  · rw [zoneChars, if_pos rfl, hsign '+' rfl]
    simp only [readOffset, bind, Except.bind, hhours, hcolon, hminutes]
    rfl

/-! ## Whole instants -/

theorem readMark_cons {mark : Char} (hmark : isBlank mark = false) :
    readMark mark (mark :: rest) = .ok rest := by
  rw [readMark, dropBlanks, List.dropWhile_cons_of_neg (by simp [hmark])]
  exact if_pos rfl

theorem readDivider_cons : readDivider ('T' :: rest) = .ok rest := rfl

theorem daysInMonth_le (year : Int) (month : Nat) : daysInMonth year month ≤ 31 := by
  unfold daysInMonth
  split
  · split <;> decide
  all_goals decide

/-! ## Leap seconds -/

section Leaps

variable (i : Instant)

theorem writtenNano_lt : i.writtenNano < 1000000000 := by
  rw [writtenNano]
  split <;> omega

@[simp] theorem date_asTold : i.asTold.date = i.date := by
  rw [asTold]
  split <;> rfl

@[simp] theorem minute_asTold : i.asTold.minute = i.minute := by
  rw [asTold]
  split <;> rfl

/-- The number of the second that is read is that of the instant told. -/
theorem ofWritten_written :
    ofWritten i.writtenSecond i.writtenNano = (i.asTold.second.val, i.asTold.nano.val) := by
  have hsecond := i.second.isLt
  rw [ofWritten, writtenSecond, writtenNano, asTold]
  by_cases hleaps : i.Leaps
  · by_cases hend : i.second.val < 59
    · simp only [if_pos hleaps, dif_pos (And.intro hleaps hend)]
      rw [if_neg (by omega)]
    · have hlast : i.second.val + 1 = 60 := by omega
      have hnano : 1000000000 + (i.nano.val - 1000000000) = i.nano.val :=
        Nat.add_sub_cancel' hleaps
      rw [dif_neg fun h => hend h.2, if_pos hleaps, if_pos hleaps, if_pos hlast, hnano]
      exact Prod.ext (by omega) rfl
  · simp only [if_neg hleaps, dif_neg fun h : i.Leaps ∧ _ => hleaps h.1]
    rw [if_neg (by omega)]

/-- What a text tells, its text tells. -/
theorem told_asTold : i.asTold.Told := by
  intro hleaps
  have hnano := i.nano.isLt
  rw [asTold] at hleaps ⊢
  split at hleaps
  · simp only [Leaps] at hleaps
    omega
  · rename_i h
    have hend : ¬ i.second.val < 59 := fun hlt => h ⟨hleaps, hlt⟩
    rw [dif_neg h]
    omega

/-- The instant that a text tells has the same text. -/
theorem render_asTold : i.asTold.render = i.render := by
  have hnano := i.nano.isLt
  have hwritten : i.asTold.writtenSecond = i.writtenSecond ∧
      i.asTold.writtenNano = i.writtenNano := by
    rw [asTold]
    split
    · rename_i h
      have hlow : ¬ 1000000000 ≤ i.nano.val - 1000000000 := by omega
      simp only [writtenSecond, writtenNano, Leaps, if_neg hlow, if_pos h.1, and_self]
    · exact ⟨rfl, rfl⟩
  rw [render, render, chars, chars, date_asTold, minute_asTold, hwritten.1, hwritten.2]

theorem asTold_eq_iff : i.asTold = i ↔ i.Told := by
  refine ⟨fun h => h ▸ i.told_asTold, fun h => dif_neg ?_⟩
  rintro ⟨hleaps, hlt⟩
  exact Nat.ne_of_lt hlt (h hleaps)

end Leaps

/-! ## Whole texts -/

/-- A time as it is spelled: the date, the time of day with the number of the second, what stands
for the fraction, and the zone. -/
def spelled (date : Date) (minute : Fin 1440) (second : Nat) (fraction zone : List Char) :
    List Char :=
  yearChars date.year ++
    '-' :: (decimalPadded 2 date.month ++
    '-' :: (decimalPadded 2 date.day ++
    'T' :: (decimalPadded 2 (minute.val / 60) ++
    ':' :: (decimalPadded 2 (minute.val % 60) ++
    ':' :: (decimalPadded 2 second ++
    (fraction ++ zone))))))

/-- What is read of a time are its parts, and the instant that the clocks of its zone show so. -/
theorem readChars_spelled (i : Instant) {second nano : Nat} {fraction zone : List Char}
    {offset : Int} (hstops : Stops isDecimal (fraction ++ zone))
    (hfraction : readFraction (fraction ++ zone) = .ok (nano, zone))
    (hwritten : ofWritten second nano = (i.second.val, i.nano.val))
    (hzone : readOffset (dropBlanks zone) = .ok (offset, [])) (hoffset : offset.natAbs < 1440) :
    readChars (spelled i.date i.minute second fraction zone) =
      (i.behind? offset).elim (.error .impossible) .ok := by
  obtain ⟨hmonth, hmonth'⟩ := i.date.month_range
  obtain ⟨hday, hday'⟩ := i.date.day_range
  have hdays := daysInMonth_le i.date.year i.date.month
  have hminute := i.minute.isLt
  have hsecond : second ≤ 60 := by
    have := i.second.isLt
    rw [ofWritten] at hwritten
    split at hwritten
    · omega
    · obtain ⟨rfl, -⟩ := Prod.ext_iff.1 hwritten
      omega
  have readYear (rest : List Char) : readYear (yearChars i.date.year ++ '-' :: rest) =
      .ok (i.date.year, '-' :: rest) :=
    readYear_yearChars i.date.year_ge i.date.year_le (stops_cons.2 rfl)
  have readMonth (rest : List Char) : readField 1 12 (decimalPadded 2 i.date.month ++ '-' :: rest) =
      .ok (i.date.month, '-' :: rest) :=
    readField_decimalPadded hmonth hmonth' (by omega) (stops_cons.2 rfl)
  have readDay (rest : List Char) : readField 1 31 (decimalPadded 2 i.date.day ++ 'T' :: rest) =
      .ok (i.date.day, 'T' :: rest) :=
    readField_decimalPadded hday (by omega) (by omega) (stops_cons.2 rfl)
  have readHour (rest : List Char) :
      readField 0 23 (decimalPadded 2 (i.minute.val / 60) ++ ':' :: rest) =
        .ok (i.minute.val / 60, ':' :: rest) :=
    readField_decimalPadded (Nat.zero_le _) (by omega) (by omega) (stops_cons.2 rfl)
  have readMinute (rest : List Char) :
      readField 0 59 (decimalPadded 2 (i.minute.val % 60) ++ ':' :: rest) =
        .ok (i.minute.val % 60, ':' :: rest) :=
    readField_decimalPadded (Nat.zero_le _) (by omega) (by omega) (stops_cons.2 rfl)
  have readSecond : readField 0 60 (decimalPadded 2 second ++ (fraction ++ zone)) =
      .ok (second, fraction ++ zone) :=
    readField_decimalPadded (Nat.zero_le _) hsecond (by omega) hstops
  have hrange : (i.minute.val / 60 * 60 + i.minute.val % 60 < 1440 ∧ i.second.val < 60) ∧
      i.nano.val < 2000000000 ∧ offset.natAbs < 1440 := by
    have := i.nano.isLt
    omega
  have hminutes : (⟨i.minute.val / 60 * 60 + i.minute.val % 60, hrange.1.1⟩ : Fin 1440) =
      i.minute := Fin.ext (Nat.div_add_mod' ..)
  rw [spelled, readChars]
  simp only [bind, Except.bind, readYear, readMark_cons (show isBlank '-' = false from rfl),
    readMonth, readDay, readDivider_cons, readHour,
    readMark_cons (show isBlank ':' = false from rfl), readMinute, readSecond, hfraction, hzone,
    Date.of?_self, hwritten]
  rw [if_neg (by decide), dif_pos hrange, hminutes]
  cases i.behind? offset <;> rfl

/-- The text of an instant is read as the instant that it tells. -/
theorem parse_render (i : Instant) : parse i.render = .ok i.asTold := by
  have hstops : Stops isDecimal ['Z'] := stops_cons.2 rfl
  have hread := readChars_spelled i.asTold (stops_fractionChars i.writtenNano hstops)
    (readFraction_fractionChars i.writtenNano_lt hstops (by decide)) i.ofWritten_written
    (show readOffset (dropBlanks ['Z']) = .ok (0, []) from rfl) (by decide)
  rw [date_asTold, minute_asTold, behind?_zero] at hread
  rw [parse, render, String.toList_ofList]
  exact hread

/-- A time with a fraction of any number of digits, in a zone up to a day off: it is read as the
instant that the clocks of the zone show so, if the calendar has it. -/
theorem parse_spelled (i : Instant) {second : Nat} {digits : List Char}
    (hdigits : ∀ c ∈ digits, isDecimal c = true) (hne : digits ≠ [])
    (hwritten : ofWritten second (nanosOf digits) = (i.second.val, i.nano.val)) (ahead : Bool)
    {hour minute : Nat} (hhour : hour < 24) (hminute : minute < 60) :
    parse (String.ofList
        (spelled i.date i.minute second ('.' :: digits) (zoneChars ahead hour minute))) =
      (i.behind? (zoneOffset ahead hour minute)).elim (.error .impossible) .ok := by
  have hstops : Stops isDecimal (zoneChars ahead hour minute) := by
    cases ahead <;> exact stops_cons.2 rfl
  have hoffset : (zoneOffset ahead hour minute).natAbs < 1440 := by
    cases ahead <;> simp [zoneOffset] <;> omega
  rw [parse, String.toList_ofList]
  exact readChars_spelled i (stops_cons.2 rfl) (readFraction_cons hdigits hne hstops) hwritten
    (readOffset_zoneChars ahead (by omega) hminute) hoffset

/-! ## Any text -/

/-- A second that is read lies beyond its thousand million nanoseconds only as the sixtieth. -/
theorem ofWritten_told {second nano : Nat} (hnano : nano < 1000000000)
    (hleaps : 1000000000 ≤ (ofWritten second nano).2) : (ofWritten second nano).1 = 59 := by
  rw [ofWritten] at hleaps ⊢
  split at hleaps
  · rw [if_pos ‹_›]
  · exact absurd hnano (Nat.not_lt_of_le hleaps)

/-- Moving an instant by whole minutes leaves the second and what lies behind it. -/
theorem told_behind? {i j : Instant} {offset : Int} (h : i.behind? offset = some j) :
    j.Told ↔ i.Told := by
  rw [behind?] at h
  split at h
  · cases h
    rfl
  · split at h
    · obtain ⟨date, -, rfl⟩ := Option.map_eq_some_iff.1 h
      rfl
    · split at h
      · obtain ⟨date, -, rfl⟩ := Option.map_eq_some_iff.1 h
        rfl
      · cases h

/-- A number that is read is the one of the digits it is read from. -/
theorem readNumber_eq_ok {width n : Nat} {cs : List Char}
    (h : readNumber (some width) cs = .ok (n, rest)) :
    n = decimalNat ((cs.take width).takeWhile isDecimal) := by
  rw [readNumber] at h
  split at h
  · cases h
  split at h
  · cases h
  split at h
  · cases h
  · cases h
    rfl

/-- A fraction is less than a second. -/
theorem readFraction_lt {cs : List Char} {nano : Nat}
    (h : readFraction cs = .ok (nano, rest)) : nano < 1000000000 := by
  rw [readFraction.eq_def] at h
  split at h
  · rename_i cs
    obtain ⟨⟨n, left⟩, hread, h⟩ := bind_eq_ok_iff.1 h
    cases h
    have hdigits : ∀ c ∈ (cs.take 9).takeWhile isDecimal, isDecimal c = true :=
      fun _ => List.mem_takeWhile_imp
    have hlength : ((cs.take 9).takeWhile isDecimal).length ≤ 9 :=
      Nat.le_trans (List.takeWhile_sublist _).length_le (List.length_take_le 9 cs)
    rw [readNumber_eq_ok hread]
    calc decimalNat ((cs.take 9).takeWhile isDecimal) *
          10 ^ (9 - ((cs.take 9).takeWhile isDecimal).length)
      _ < 10 ^ ((cs.take 9).takeWhile isDecimal).length *
          10 ^ (9 - ((cs.take 9).takeWhile isDecimal).length) :=
        Nat.mul_lt_mul_of_pos_right (decimalNat_lt hdigits) (Nat.pow_pos (by decide))
      _ = 1000000000 := by rw [← Nat.pow_add, Nat.add_sub_cancel' hlength]
  · cases h
    decide

/-- Whatever text is read as an instant tells which one it is. -/
theorem told_of_parse {text : String} {i : Instant} (h : parse text = .ok i) : i.Told := by
  rw [parse, readChars] at h
  obtain ⟨⟨year, cs⟩, -, h⟩ := bind_eq_ok_iff.1 h
  obtain ⟨_, -, h⟩ := bind_eq_ok_iff.1 h
  obtain ⟨⟨month, cs⟩, -, h⟩ := bind_eq_ok_iff.1 h
  obtain ⟨_, -, h⟩ := bind_eq_ok_iff.1 h
  obtain ⟨⟨day, cs⟩, -, h⟩ := bind_eq_ok_iff.1 h
  obtain ⟨_, -, h⟩ := bind_eq_ok_iff.1 h
  obtain ⟨⟨hour, cs⟩, -, h⟩ := bind_eq_ok_iff.1 h
  obtain ⟨_, -, h⟩ := bind_eq_ok_iff.1 h
  obtain ⟨⟨minute, cs⟩, -, h⟩ := bind_eq_ok_iff.1 h
  obtain ⟨_, -, h⟩ := bind_eq_ok_iff.1 h
  obtain ⟨⟨second, cs⟩, -, h⟩ := bind_eq_ok_iff.1 h
  obtain ⟨⟨nano, cs⟩, hfraction, h⟩ := bind_eq_ok_iff.1 h
  obtain ⟨⟨offset, cs⟩, -, h⟩ := bind_eq_ok_iff.1 h
  have hnano := readFraction_lt hfraction
  dsimp only at h
  split at h
  · cases h
  split at h
  · cases h
  rename_i date _
  split at h
  · rename_i hrange
    split at h
    · rename_i hmoved
      cases h
      exact (told_behind? hmoved).2 (ofWritten_told hnano)
    · cases h
  · cases h

end Instant

end Jukebox
