import Jukebox.Document.Json.Printer
import Jukebox.Document.Json.Reader
import Jukebox.Proofs.Text.Digits

/-!
# Strings and numbers of JSON, written and read

A string that was written is read up to its closing quote (`readChars?_escaped`), whatever it holds:
each character is written as itself, or as an escape that is read as it. What is written of a string
has no control characters (`le_of_mem_printString`).

An integer is read up to its last digit (`readNumber?_toString`), because what follows a value is a
comma or a closing bracket (`Closes`), which cannot go on a number.
-/

namespace Jukebox.Json

open Text Document

/-! ## Characters of a string -/

/-- A character of a string is written as itself, or as a backslash and something that is read as
the character whatever follows. -/
theorem escapeChar_cases (c : Char) :
    (escapeChar c = [c] ∧ c ≠ '"' ∧ c ≠ '\\' ∧ 0x20 ≤ c.toNat) ∨
      ∃ escape, escapeChar c = '\\' :: escape ∧
        ∀ rest, readEscape? (escape ++ rest) = some (c, rest) := by
  rw [escapeChar.eq_def]
  split
  · exact .inr ⟨_, rfl, fun _ => rfl⟩
  · exact .inr ⟨_, rfl, fun _ => rfl⟩
  · exact .inr ⟨_, rfl, fun _ => rfl⟩
  · exact .inr ⟨_, rfl, fun _ => rfl⟩
  · exact .inr ⟨_, rfl, fun _ => rfl⟩
  · exact .inr ⟨_, rfl, fun _ => rfl⟩
  · exact .inr ⟨_, rfl, fun _ => rfl⟩
  · rename_i hquote hbackslash _ _ _ _ _
    split
    · rename_i hcontrol
      refine .inr ⟨_, rfl, fun rest => ?_⟩
      have hnumber : hexNumber? 4 (hexPadded 4 c.toNat ++ rest) = some (c.toNat, rest) :=
        hexNumber?_hexPadded (by omega) rest
      rw [List.cons_append, readEscape?, readUnicode?, hnumber]
      simp only []
      rw [if_neg (by omega), if_neg (by omega), Char.ofNat_toNat]
    · rename_i hprinting
      exact .inl ⟨rfl, hquote, hbackslash, by omega⟩

/-- Control characters are never written as themselves. -/
theorem le_of_mem_escapeChar {c d : Char} (h : d ∈ escapeChar c) : 0x20 ≤ d.toNat := by
  have hdigits : ∀ digit : Fin 16, 0x20 ≤ (hexDigit digit.val).toNat := by decide
  rw [escapeChar.eq_def] at h
  split at h
  case h_8 =>
    split at h
    · obtain ⟨digits, hpadded, hlt, -⟩ := exists_hexPadded 4 c.toNat
      rw [hpadded, List.mem_cons, List.mem_cons, List.mem_map] at h
      rcases h with rfl | rfl | ⟨digit, hdigit, rfl⟩
      · decide
      · decide
      · exact hdigits ⟨digit, hlt digit hdigit⟩
    · rw [List.mem_singleton] at h
      rw [h]
      omega
  all_goals
    simp only [List.mem_cons, List.not_mem_nil, or_false] at h
    rcases h with rfl | rfl <;> decide

theorem length_escaped_le (s : List Char) : s.length ≤ (s.flatMap escapeChar).length := by
  induction s with
  | nil => exact Nat.le_refl 0
  | cons c s ih =>
    have hpos : 0 < (escapeChar c).length := by
      rcases escapeChar_cases c with ⟨h, -⟩ | ⟨escape, h, -⟩ <;> rw [h] <;> exact Nat.succ_pos _
    rw [List.flatMap_cons, List.length_append, List.length_cons]
    omega

/-- A string is read up to its closing quote. -/
theorem readChars?_escaped (s rest : List Char) {fuel : Nat} (hfuel : s.length < fuel) :
    readChars? fuel (s.flatMap escapeChar ++ '"' :: rest) = some (s, rest) := by
  induction s generalizing fuel with
  | nil =>
    obtain ⟨fuel, rfl⟩ := Nat.exists_eq_add_one_of_ne_zero (Nat.ne_of_gt hfuel)
    simp [readChars?]
  | cons c s ih =>
    obtain ⟨fuel, rfl⟩ := Nat.exists_eq_add_one_of_ne_zero (Nat.ne_of_gt (Nat.zero_lt_of_lt hfuel))
    have ih : readChars? fuel (s.flatMap escapeChar ++ '"' :: rest) = some (s, rest) :=
      ih (by simpa using hfuel)
    rw [List.flatMap_cons, List.append_assoc]
    rcases escapeChar_cases c with ⟨hself, hquote, hbackslash, hprinting⟩ | ⟨escape, hescape, hread⟩
    · have hcontrol : ¬ c.toNat < 0x20 := by omega
      simp [hself, readChars?, hquote, hbackslash, hcontrol, ih]
    · simp [hescape, readChars?, hread, ih]

/-- The length of a text is always enough to read the string at its start. -/
theorem readChars?_length (s rest : List Char) :
    readChars? ((s.flatMap escapeChar ++ '"' :: rest).length + 1)
      (s.flatMap escapeChar ++ '"' :: rest) = some (s, rest) := by
  refine readChars?_escaped s rest ?_
  have hlength := length_escaped_le s
  rw [List.length_append]
  omega

theorem le_of_mem_printString {s : List Char} {c : Char} (h : c ∈ printString s) :
    0x20 ≤ c.toNat := by
  rw [printString, List.mem_cons, List.mem_append, List.mem_flatMap, List.mem_singleton] at h
  rcases h with rfl | ⟨d, -, hc⟩ | rfl
  · decide
  · exact le_of_mem_escapeChar hc
  · decide

/-! ## Numbers -/

/-- What may follow a value: nothing, a comma or a closing bracket. -/
def Closes (rest : List Char) : Prop :=
  ∀ c ∈ rest.head?, c = ',' ∨ c = ']' ∨ c = '\x7d'

@[simp] theorem closes_nil : Closes [] := by
  simp [Closes]

@[simp] theorem closes_cons {c : Char} {rest : List Char} :
    Closes (c :: rest) ↔ c = ',' ∨ c = ']' ∨ c = '\x7d' := by
  simp [Closes]

variable {rest : List Char}

theorem Closes.stops (h : Closes rest) : Stops isDecimal rest := by
  intro c hc
  rcases h c hc with rfl | rfl | rfl <;> decide

theorem Closes.readFraction? (h : Closes rest) : readFraction? rest = some (none, rest) := by
  cases rest with
  | nil => rfl
  | cons c rest => rcases closes_cons.1 h with rfl | rfl | rfl <;> rfl

theorem Closes.readPower? (h : Closes rest) : readPower? rest = some (0, rest) := by
  cases rest with
  | nil => rfl
  | cons c rest => rcases closes_cons.1 h with rfl | rfl | rfl <;> rfl

theorem spanDigits_toDigits (n : Nat) (h : Closes rest) :
    spanDigits (Nat.toDigits 10 n ++ rest) = (Nat.toDigits 10 n, rest) := by
  rw [spanDigits, takeWhile_append_of_stops (fun _ => isDecimal_of_mem_toDigits) h.stops,
    dropWhile_append_of_stops (fun _ => isDecimal_of_mem_toDigits) h.stops]

/-- Zero is written with the one digit, and other numbers do not begin with it. -/
theorem toDigits_wellFormed (n : Nat) :
    ¬ ((Nat.toDigits 10 n).isEmpty = true ∨
      ((Nat.toDigits 10 n).head? = some '0' ∧ (Nat.toDigits 10 n).length > 1)) := by
  rintro (hempty | ⟨hzero, hlong⟩)
  · exact Nat.toDigits_ne_nil (List.isEmpty_iff.1 hempty)
  · rcases Nat.eq_zero_or_pos n with rfl | hpos
    · exact absurd hlong (by decide)
    · exact head?_toDigits hpos hzero

theorem readNumber?_natural {n : Nat} (hn : n < UInt64.size) (h : Closes rest) :
    readNumber? (Nat.toDigits 10 n ++ rest) = some (.integer n, rest) := by
  have hsign : ∀ more, Nat.toDigits 10 n ++ rest ≠ '-' :: more := by
    intro more heq
    cases hdigits : Nat.toDigits 10 n with
    | nil => exact Nat.toDigits_ne_nil hdigits
    | cons d digits =>
      have hdecimal : isDecimal d = true := isDecimal_of_mem_toDigits (by rw [hdigits]; simp)
      rw [hdigits] at heq
      rw [List.head_eq_of_cons_eq heq] at hdecimal
      exact absurd hdecimal (by decide)
  rw [readNumber?.eq_def]
  split
  rename_i negative digits hcases
  split at hcases
  · rename_i more heq
    exact absurd heq (hsign more)
  · obtain ⟨rfl, rfl⟩ := Prod.mk.inj hcases
    simp only [spanDigits_toDigits n h, if_neg (toDigits_wellFormed n), h.readFraction?,
      h.readPower?, decimalNat_toDigits]
    simp [hn]

theorem readNumber?_negative {n : Nat} (hpos : 0 < n) (hn : n ≤ UInt64.size / 2)
    (h : Closes rest) :
    readNumber? ('-' :: (Nat.toDigits 10 n ++ rest)) = some (.integer (-n), rest) := by
  rw [readNumber?.eq_def]
  simp only [spanDigits_toDigits n h, if_neg (toDigits_wellFormed n), h.readFraction?,
    h.readPower?, decimalNat_toDigits]
  simp [hpos, hn]

theorem readNumber?_toString {n : Int} (hlow : -(UInt64.size / 2 : Nat) ≤ n)
    (hhigh : n < UInt64.size) (h : Closes rest) :
    readNumber? ((toString n).toList ++ rest) = some (.integer n, rest) := by
  rw [Int.toString_eq_repr]
  cases n with
  | ofNat m =>
    rw [Int.repr, Nat.toList_repr]
    exact readNumber?_natural (Int.ofNat_lt.1 hhigh) h
  | negSucc m =>
    rw [Int.repr, String.toList_append, Nat.toList_repr]
    exact readNumber?_negative (Nat.succ_pos m) (by omega) h

/-- The text of an integer is made of digits, perhaps behind a sign. -/
theorem sign_or_digit_of_mem_toString {n : Int} {c : Char} (h : c ∈ (toString n).toList) :
    c = '-' ∨ isDecimal c = true := by
  rw [Int.toString_eq_repr] at h
  cases n with
  | ofNat m =>
    rw [Int.repr, Nat.toList_repr] at h
    exact .inr (isDecimal_of_mem_toDigits h)
  | negSucc m =>
    rw [Int.repr, String.toList_append, Nat.toList_repr, List.mem_append] at h
    exact h.imp List.mem_singleton.1 isDecimal_of_mem_toDigits

theorem toString_ne_nil (n : Int) : (toString n).toList ≠ [] := by
  rw [Int.toString_eq_repr]
  cases n with
  | ofNat m =>
    rw [Int.repr, Nat.toList_repr]
    exact Nat.toDigits_ne_nil
  | negSucc m =>
    rw [Int.repr, String.toList_append]
    exact List.cons_ne_nil _ _

end Jukebox.Json
