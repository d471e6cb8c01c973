import Jukebox.Proofs.Text.Digits
import Jukebox.Uuid

/-!
# Session identifiers, written and read

The text of a UUID is read as that UUID (`parse?_render`), and so are its other spellings: the
digits alone, the text between braces, and the text behind `urn:uuid:`. The groups are taken off the
text one by one, so this is shown for any list of group lengths. Of the four forms that are read the
text is in the hyphenated one: it begins with a digit, and so neither with a brace nor with
`urn:uuid:`, and it is longer than 32 characters.
-/

namespace Jukebox.Uuid

open Text

theorem hyphenate_cons_grouped {α : Type} (group : List Char) (n : Nat) (lengths : List Nat)
    (l : List α) (write : α → Char) :
    hyphenate (group :: grouped (n :: lengths) (l.map write)) =
      group ++ '-' :: hyphenate (grouped (n :: lengths) (l.map write)) := rfl

/-- Groups that were written are read, whatever their lengths. -/
theorem readGroups?_hyphenate {lengths digits : List Nat} (hlength : digits.length = lengths.sum)
    (hlt : ∀ d ∈ digits, d < 16) :
    readGroups? lengths (hyphenate (grouped lengths (digits.map hexDigit))) = some digits := by
  induction lengths generalizing digits with
  | nil =>
    rw [List.sum_nil, List.length_eq_zero_iff] at hlength
    rw [hlength]
    rfl
  | cons n lengths ih =>
    rw [List.sum_cons] at hlength
    have htake : (digits.map hexDigit).take n = (digits.take n).map hexDigit := List.map_take.symm
    have hdrop : (digits.map hexDigit).drop n = (digits.drop n).map hexDigit := List.map_drop.symm
    have hgroup : ((digits.take n).map hexDigit).length = n := by
      rw [List.length_map, List.length_take]
      omega
    have hread : ((digits.take n).map hexDigit).mapM hexValue? = some (digits.take n) :=
      mapM_hexValue?_map_hexDigit fun d hd => hlt d (List.mem_of_mem_take hd)
    cases lengths with
    | nil =>
      have hall : digits.take n = digits := List.take_of_length_le (by simp at hlength; omega)
      rw [grouped, grouped, hyphenate, htake, readGroups?, if_pos hgroup, hread, hall]
    | cons m lengths =>
      have hothers : readGroups? (m :: lengths)
          (hyphenate (grouped (m :: lengths) ((digits.drop n).map hexDigit))) =
            some (digits.drop n) :=
        ih (by rw [List.length_drop]; omega) fun d hd => hlt d (List.mem_of_mem_drop hd)
      rw [grouped, htake, hdrop, hyphenate_cons_grouped, readGroups?]
      · simp only [List.take_left' hgroup, List.drop_left' hgroup, hread, hothers, Option.map_some,
          List.take_append_drop]
      · simp

theorem length_hyphenate_grouped {n : Nat} {lengths : List Nat} {cs : List Char}
    (hlength : cs.length = n + lengths.sum) :
    (hyphenate (grouped (n :: lengths) cs)).length = cs.length + lengths.length := by
  induction lengths generalizing n cs with
  | nil => simp [grouped, hyphenate, hlength]
  | cons m lengths ih =>
    rw [List.sum_cons] at hlength
    have hothers : (hyphenate (grouped (m :: lengths) (cs.drop n))).length =
        (cs.drop n).length + lengths.length := ih (by rw [List.length_drop]; omega)
    have hsplit : hyphenate (grouped (n :: m :: lengths) cs) =
        cs.take n ++ '-' :: hyphenate (grouped (m :: lengths) (cs.drop n)) := rfl
    rw [hsplit, List.length_append, List.length_cons, hothers, List.length_take, List.length_drop,
      List.length_cons]
    omega

variable (u : Uuid)

theorem readHyphenated?_chars : readHyphenated? u.chars = some u := by
  have hgroups : readGroups? groups u.chars = some u.digits :=
    readGroups?_hyphenate u.length_digits u.digits_lt
  rw [readHyphenated?, hgroups, Option.bind_some, ofDigits?,
    dif_pos ⟨u.length_digits, u.digits_lt⟩]

theorem length_chars : u.chars.length = 36 := by
  have hlength : (u.digits.map hexDigit).length = 32 := by rw [List.length_map, u.length_digits]
  rw [chars, groups, length_hyphenate_grouped hlength, hlength]
  rfl

/-- The text begins with a digit. -/
theorem exists_chars_eq_cons : ∃ d cs, d < 16 ∧ u.chars = hexDigit d :: cs := by
  have hlt := u.digits_lt
  have hlength := u.length_digits
  rw [chars]
  cases hdigits : u.digits with
  | nil =>
    rw [hdigits] at hlength
    cases hlength
  | cons d digits => exact ⟨d, _, hlt d (by rw [hdigits]; simp), rfl⟩

/-- A text that begins with a digit is not wrapped in anything. -/
theorem unwrap_hexDigit_cons {d : Nat} (hd : d < 16) (cs : List Char) :
    unwrap (hexDigit d :: cs) = (hexDigit d :: cs, 0) := by
  have hall : ∀ d : Fin 16, hexDigit d.val ≠ '\x7b' ∧ hexDigit d.val ≠ 'u' := by decide
  obtain ⟨hbrace, hlead⟩ := hall ⟨d, hd⟩
  simp [unwrap, hbrace, hlead.symm]

theorem unwrap_chars : unwrap u.chars = (u.chars, 0) := by
  obtain ⟨d, cs, hd, hchars⟩ := u.exists_chars_eq_cons
  rw [hchars, unwrap_hexDigit_cons hd]

/-- The text of an identifier is read as the identifier. -/
theorem parse?_render : parse? u.render = .ok u := by
  have hlength := u.length_chars
  rw [parse?, render, String.toList_ofList, u.unwrap_chars]
  simp only []
  rw [if_neg (by omega), u.readHyphenated?_chars]

/-! ## Other spellings -/

/-- The digits without hyphens are read as the identifier. -/
theorem parse?_simple : parse? (String.ofList (u.digits.map hexDigit)) = .ok u := by
  have hlength : (u.digits.map hexDigit).length = 32 := by rw [List.length_map, u.length_digits]
  have hunwrap : unwrap (u.digits.map hexDigit) = (u.digits.map hexDigit, 0) := by
    have hlt := u.digits_lt
    cases hdigits : u.digits with
    | nil =>
      rw [hdigits] at hlength
      cases hlength
    | cons d digits => exact unwrap_hexDigit_cons (hlt d (by rw [hdigits]; simp)) _
  have hread : readSimple? (u.digits.map hexDigit) = some u := by
    rw [readSimple?, mapM_hexValue?_map_hexDigit u.digits_lt, Option.bind_some, ofDigits?,
      dif_pos ⟨u.length_digits, u.digits_lt⟩]
  rw [parse?, String.toList_ofList, hunwrap]
  simp only []
  rw [if_pos ⟨trivial, hlength⟩, hread]

/-- The text between braces is read as the identifier. -/
theorem parse?_braced :
    parse? (String.ofList ('\x7b' :: (u.chars ++ ['\x7d']))) = .ok u := by
  have hunwrap : unwrap ('\x7b' :: (u.chars ++ ['\x7d'])) = (u.chars, 1) := by simp [unwrap]
  rw [parse?, String.toList_ofList, hunwrap]
  simp only []
  rw [if_neg (by simp), u.readHyphenated?_chars]

/-- The text behind `urn:uuid:` is read as the identifier. -/
theorem parse?_urn :
    parse? (String.ofList (['u', 'r', 'n', ':', 'u', 'u', 'i', 'd', ':'] ++ u.chars)) = .ok u := by
  have hunwrap :
      unwrap (['u', 'r', 'n', ':', 'u', 'u', 'i', 'd', ':'] ++ u.chars) = (u.chars, 9) := by
    simp [unwrap]
  rw [parse?, String.toList_ofList, hunwrap]
  simp only []
  rw [if_neg (by simp), u.readHyphenated?_chars]

end Jukebox.Uuid
