import Jukebox.Text.Digits
import Mathlib.Algebra.Ring.Nat
import Mathlib.Data.List.Induction

/-!
# Digits, written and read

Digits that were written are read as the number they were written for: the shortest decimal form
(`decimalNat_toDigits`), a fixed number of decimal digits (`decimalNat_decimalPadded`), and a fixed
number of hexadecimal ones (`hexNumber?_hexPadded`).

A reader takes as many digits as there are, so where a number ends is decided by what follows it.
`Stops` says that what follows goes on with no character of a kind.
-/

namespace Jukebox.Text

/-! ## Where a run of characters ends -/

/-- The text does not go on with a character of the kind. -/
def Stops (kind : Char → Bool) (rest : List Char) : Prop :=
  ∀ c ∈ rest.head?, kind c = false

@[simp] theorem stops_nil (kind : Char → Bool) : Stops kind [] := by
  simp [Stops]

@[simp] theorem stops_cons {kind : Char → Bool} {c : Char} {rest : List Char} :
    Stops kind (c :: rest) ↔ kind c = false := by
  simp [Stops]

variable {kind : Char → Bool} {run rest : List Char}

theorem takeWhile_of_stops (hrest : Stops kind rest) : rest.takeWhile kind = [] := by
  cases rest with
  | nil => rfl
  | cons c rest => rw [List.takeWhile_cons_of_neg (by simpa using hrest)]

theorem dropWhile_of_stops (hrest : Stops kind rest) : rest.dropWhile kind = rest := by
  cases rest with
  | nil => rfl
  | cons c rest => rw [List.dropWhile_cons_of_neg (by simpa using hrest)]

theorem takeWhile_append_of_stops (hrun : ∀ c ∈ run, kind c = true) (hrest : Stops kind rest) :
    (run ++ rest).takeWhile kind = run := by
  rw [List.takeWhile_append_of_pos hrun, takeWhile_of_stops hrest, List.append_nil]

theorem dropWhile_append_of_stops (hrun : ∀ c ∈ run, kind c = true) (hrest : Stops kind rest) :
    (run ++ rest).dropWhile kind = rest := by
  rw [List.dropWhile_append_of_pos hrun, dropWhile_of_stops hrest]

/-! ## Decimal digits -/

theorem isDecimal_eq_isDigit (c : Char) : isDecimal c = c.isDigit := by
  simp [isDecimal, Char.isDigit, Char.le_def]

theorem decimalNat_eq_ofDigitChars (cs : List Char) : decimalNat cs = Nat.ofDigitChars 10 cs 0 := by
  rw [decimalNat, ofDigits, List.foldl_map, Nat.ofDigitChars]
  simp only [decimalValue, Nat.mul_comm]

theorem decimalNat_append_singleton (cs : List Char) (c : Char) :
    decimalNat (cs ++ [c]) = decimalNat cs * 10 + decimalValue c := by
  simp [decimalNat, ofDigits]

theorem isDecimal_of_mem_toDigits {n : Nat} {c : Char} (h : c ∈ Nat.toDigits 10 n) :
    isDecimal c = true := by
  rw [isDecimal_eq_isDigit]
  exact Nat.isDigit_of_mem_toDigits (by decide) (by decide) h

theorem decimalNat_toDigits (n : Nat) : decimalNat (Nat.toDigits 10 n) = n := by
  rw [decimalNat_eq_ofDigitChars]
  exact Nat.ofDigitChars_toDigits (by decide) (by decide)

/-- The digit for the last place of a number has the value of that place. -/
theorem decimal_last (n : Nat) :
    isDecimal (Char.ofNat ('0'.toNat + n % 10)) = true ∧
      decimalValue (Char.ofNat ('0'.toNat + n % 10)) = n % 10 := by
  have hall : ∀ d : Fin 10, isDecimal (Char.ofNat ('0'.toNat + d.val)) = true ∧
      decimalValue (Char.ofNat ('0'.toNat + d.val)) = d.val := by decide
  exact hall ⟨n % 10, Nat.mod_lt n (by decide)⟩

theorem isDecimal_of_mem_decimalPadded {width n : Nat} {c : Char} (h : c ∈ decimalPadded width n) :
    isDecimal c = true := by
  induction width generalizing n with
  | zero => cases h
  | succ width ih =>
    rw [decimalPadded, List.mem_append, List.mem_singleton] at h
    rcases h with h | rfl
    · exact ih h
    · exact (decimal_last n).1

theorem decimalNat_decimalPadded {width n : Nat} (h : n < 10 ^ width) :
    decimalNat (decimalPadded width n) = n := by
  induction width generalizing n with
  | zero =>
    have : n = 0 := by omega
    rw [this]
    rfl
  | succ width ih =>
    have hinit : n / 10 < 10 ^ width := by
      rw [Nat.pow_succ] at h
      omega
    rw [decimalPadded, decimalNat_append_singleton, ih hinit, (decimal_last n).2]
    omega

/-- A run of digits stands for a number with no more places than it has digits. -/
theorem decimalNat_lt {digits : List Char} (h : ∀ c ∈ digits, isDecimal c = true) :
    decimalNat digits < 10 ^ digits.length := by
  induction digits using List.reverseRecOn with
  | nil => decide
  | append_singleton digits c ih =>
    have hinit := ih fun d hd => h d (List.mem_append_left _ hd)
    have hlast : decimalValue c < 10 := by
      have hc := h c (List.mem_append_right _ List.mem_cons_self)
      rw [isDecimal_eq_isDigit, Char.isDigit, Bool.and_eq_true, decide_eq_true_eq,
        decide_eq_true_eq] at hc
      have hhigh : c.toNat ≤ 57 := hc.2
      show c.toNat - 48 < 10
      omega
    rw [decimalNat_append_singleton, List.length_append, List.length_singleton, Nat.pow_succ]
    omega

/-- The shortest decimal form has no leading zeros. -/
theorem head?_toDigits {n : Nat} (h : 0 < n) : (Nat.toDigits 10 n).head? ≠ some '0' := by
  induction n using Nat.strongRecOn with
  | ind n ih =>
    by_cases hlt : n < 10
    · have hall : ∀ d : Fin 10, 0 < d.val → d.val.digitChar ≠ '0' := by decide
      rw [Nat.toDigits_of_lt_base hlt, List.head?_cons, Ne, Option.some.injEq]
      exact hall ⟨n, hlt⟩ h
    · rw [Nat.toDigits_of_base_le (by decide) (by omega), List.head?_append]
      cases hhead : (Nat.toDigits 10 (n / 10)).head? with
      | none => exact absurd (List.head?_eq_none_iff.1 hhead) Nat.toDigits_ne_nil
      | some d =>
        rw [Option.some_or, ← hhead]
        exact ih (n / 10) (by omega) (by omega)

/-! ## Hexadecimal digits -/

theorem ofDigits_append_singleton (base : Nat) (digits : List Nat) (d : Nat) :
    ofDigits base (digits ++ [d]) = ofDigits base digits * base + d := by
  simp [ofDigits]

/-- Digits that were written are read. -/
theorem mapM_hexValue?_map_hexDigit {digits : List Nat} (h : ∀ d ∈ digits, d < 16) :
    (digits.map hexDigit).mapM hexValue? = some digits := by
  induction digits with
  | nil => rfl
  | cons d digits ih =>
    rw [List.forall_mem_cons] at h
    rw [List.map_cons, List.mapM_cons, hexValue?_hexDigit h.1, ih h.2]
    rfl

theorem exists_hexPadded (width n : Nat) : ∃ digits : List Nat,
    hexPadded width n = digits.map hexDigit ∧ (∀ d ∈ digits, d < 16) ∧
      ofDigits 16 digits = n % 16 ^ width := by
  induction width generalizing n with
  | zero => exact ⟨[], rfl, by simp, by simp [ofDigits, Nat.mod_one]⟩
  | succ width ih =>
    obtain ⟨digits, hpadded, hlt, hvalue⟩ := ih (n / 16)
    refine ⟨digits ++ [n % 16], by simp [hexPadded, hpadded], ?_, ?_⟩
    · simp only [List.mem_append, List.mem_singleton]
      rintro d (hd | rfl)
      · exact hlt d hd
      · exact Nat.mod_lt n (by decide)
    · rw [ofDigits_append_singleton, hvalue, Nat.pow_succ, Nat.mul_comm (16 ^ width),
        Nat.mod_mul]
      omega

theorem hexNumber?_hexPadded {width n : Nat} (h : n < 16 ^ width) (rest : List Char) :
    hexNumber? width (hexPadded width n ++ rest) = some (n, rest) := by
  obtain ⟨digits, hpadded, hlt, hvalue⟩ := exists_hexPadded width n
  have htake : (hexPadded width n ++ rest).take width = hexPadded width n :=
    List.take_left' (length_hexPadded width n)
  have hdrop : (hexPadded width n ++ rest).drop width = rest :=
    List.drop_left' (length_hexPadded width n)
  have hread : (hexPadded width n).mapM hexValue? = some digits := by
    rw [hpadded, mapM_hexValue?_map_hexDigit hlt]
  simp only [hexNumber?, htake, hdrop, hread, length_hexPadded, if_true, hvalue,
    Nat.mod_eq_of_lt h]

end Jukebox.Text
