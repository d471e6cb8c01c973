import Jukebox.Proofs.Document.Json.Tokens

/-!
# JSON, written and read

A value that was written is read back from its text (`parse?_render`): the same value, but for the
entries of its tables, which come out in the order of their keys. This holds of values without
floating-point numbers and dates, whose integers are those that JSON texts keep exact, and that are
not nested deeper than the reader goes (`Writable`).

Lists and tables are read item by item, so what is shown of each value says that it is read from
the start of a text, and that the rest of the text is left (`Reads`). The fuel that the text's
length gives is enough, since every call of the reader opens a bracket or passes over a comma.

The text of a value has no control characters (`le_of_mem_print`).
-/

namespace Jukebox.Json

open Text Document

variable {rest : List Char}

/-! ## Values -/

/-- Values whose text is read back. `depth` is how many lists and tables may be opened. -/
inductive Writable : Nat → Document → Prop
  | null {depth : Nat} : Writable depth .null
  | boolean {depth : Nat} (value : Bool) : Writable depth (.boolean value)
  | integer {depth : Nat} {n : Int} (low : -(UInt64.size / 2 : Nat) ≤ n) (high : n < UInt64.size) :
    Writable depth (.integer n)
  | string {depth : Nat} (s : String) : Writable depth (.string s)
  | list {depth : Nat} {items : List Document} (h : ∀ item ∈ items, Writable depth item) :
    Writable (depth + 1) (.list items)
  | table {depth : Nat} {entries : Entries} (h : ∀ entry ∈ entries, Writable depth entry.2) :
    Writable (depth + 1) (.table entries)

mutual

/-- What is read from the text of a value: the entries of its tables are in the order of their
keys. -/
def settled : Document → Document
  | .list items => .list (settledItems items)
  | .table entries => .table (Entries.sorted (settledEntries entries))
  | d => d

/-- The items of a list, each as it is read from its text. -/
def settledItems : List Document → List Document
  | [] => []
  | item :: others => settled item :: settledItems others

/-- The entries of a table, with each value as it is read from its text. -/
def settledEntries : Entries → Entries
  | [] => []
  | (key, value) :: others => (key, settled value) :: settledEntries others

end

/-- The value is read from its text, whatever follows. -/
def Reads (depth : Nat) (d : Document) : Prop :=
  ∀ {fuel : Nat} {rest : List Char}, (print d).length ≤ fuel → Closes rest →
    readValue? depth fuel (print d ++ rest) = some (settled d, rest)

theorem skipSpace_cons {c : Char} (h : isSpace c = false) : skipSpace (c :: rest) = c :: rest := by
  rw [skipSpace, List.dropWhile_cons_of_neg (by simpa using h)]

theorem isSpace_of_sign_or_digit {c : Char} (h : c = '-' ∨ isDecimal c = true) :
    isSpace c = false := by
  rw [Bool.eq_false_iff]
  intro hspace
  simp only [isSpace, Bool.or_eq_true, decide_eq_true_eq] at hspace
  rcases hspace with ((rfl | rfl) | rfl) | rfl <;> revert h <;> decide

/-- The text of a value begins with a character of its own. -/
theorem Writable.exists_print_eq_cons {depth : Nat} {d : Document} (h : Writable depth d) :
    ∃ c cs, print d = c :: cs ∧ isSpace c = false ∧ c ≠ ']' := by
  cases h with
  | null => exact ⟨'n', _, rfl, by decide, by decide⟩
  | boolean value => cases value <;> exact ⟨_, _, rfl, by decide, by decide⟩
  | @integer _ n =>
    obtain ⟨c, cs, hprint⟩ := List.exists_cons_of_ne_nil (toString_ne_nil n)
    have hc : c = '-' ∨ isDecimal c = true :=
      sign_or_digit_of_mem_toString (hprint ▸ List.mem_cons_self)
    refine ⟨c, cs, by rw [print, hprint], isSpace_of_sign_or_digit hc, ?_⟩
    rintro rfl
    revert hc
    decide
  | string s => exact ⟨'"', _, by rw [print, printString], by decide, by decide⟩
  | list => exact ⟨'[', _, by rw [print], by decide, by decide⟩
  | table => exact ⟨'\x7b', _, by rw [print], by decide, by decide⟩

/-- A value that begins like a number is read as one. -/
theorem readValue?_of_sign_or_digit {depth fuel : Nat} {c : Char} {cs : List Char}
    (h : c = '-' ∨ isDecimal c = true) :
    readValue? depth (fuel + 1) (c :: cs) = readNumber? (c :: cs) := by
  rw [readValue?, skipSpace_cons (isSpace_of_sign_or_digit h)]
  split
  case h_1 heq => cases heq
  case h_8 heq => rw [heq]
  all_goals
    rename_i heq
    rw [List.head_eq_of_cons_eq heq] at h
    exact absurd h (by decide)

theorem commaSeparated_cons_cons (first second : List Char) (others : List (List Char)) :
    commaSeparated (first :: second :: others) =
      first ++ ',' :: commaSeparated (second :: others) := rfl

/-- The text of several items begins with the text of the first. -/
theorem exists_commaSeparated_eq (first : List Char) (others : List (List Char)) :
    ∃ more, commaSeparated (first :: others) = first ++ more := by
  cases others with
  | nil => exact ⟨[], (List.append_nil first).symm⟩
  | cons second others => exact ⟨_, commaSeparated_cons_cons first second others⟩

theorem readItems?_commaSeparated {depth : Nat} {first : Document} {others : List Document}
    (h : ∀ item ∈ first :: others, Reads depth item) {fuel : Nat}
    (hfuel : (commaSeparated (printItems (first :: others))).length < fuel) (rest : List Char) :
    readItems? depth fuel (commaSeparated (printItems (first :: others)) ++ ']' :: rest) =
      some (settledItems (first :: others), rest) := by
  obtain ⟨fuel, rfl⟩ := Nat.exists_eq_add_one_of_ne_zero (Nat.ne_zero_of_lt hfuel)
  rw [Nat.lt_succ_iff] at hfuel
  induction others generalizing first fuel with
  | nil =>
    have hfirst : readValue? depth fuel (print first ++ ']' :: rest) =
        some (settled first, ']' :: rest) := h first (by simp) hfuel (by simp)
    rw [printItems, printItems, commaSeparated, readItems?, hfirst]
    rfl
  | cons second others ih =>
    rw [printItems, printItems, commaSeparated_cons_cons, ← printItems] at hfuel ⊢
    rw [List.length_append, List.length_cons] at hfuel
    obtain ⟨fuel, rfl⟩ := Nat.exists_eq_add_one_of_ne_zero (n := fuel) (by omega)
    have hfirst : readValue? depth (fuel + 1) (print first ++ ',' ::
        (commaSeparated (printItems (second :: others)) ++ ']' :: rest)) =
        some (settled first,
          ',' :: (commaSeparated (printItems (second :: others)) ++ ']' :: rest)) :=
      h first (by simp) (by omega) (by simp)
    have hothers := ih (fun item hitem => h item (List.mem_cons_of_mem first hitem)) fuel (by omega)
    rw [List.append_assoc, List.cons_append, readItems?, hfirst]
    simp only [skipSpace_cons (show isSpace ',' = false from rfl), hothers]
    rfl

/-- What follows an entry: other entries after a comma, or the end of the table. -/
def readOthers? (depth fuel : Nat) (entry : String × Document) :
    List Char → Option (Entries × List Char)
  | ',' :: rest =>
    (readEntries? depth fuel rest).map fun (entries, rest) => (entry :: entries, rest)
  | '\x7d' :: rest => some ([entry], rest)
  | _ => none

/-- An entry is read up to the end of its value. -/
theorem readEntries?_entry {depth fuel : Nat} {value : Document} (key : String)
    (h : Reads depth value) (hfuel : (print value).length ≤ fuel) (hrest : Closes rest) :
    readEntries? depth (fuel + 1) (printString key.toList ++ ':' :: print value ++ rest) =
      readOthers? depth fuel (key, settled value) (skipSpace rest) := by
  simp only [printString, List.cons_append, List.append_assoc, List.nil_append, readEntries?,
    skipSpace_cons (show isSpace '"' = false from rfl), readChars?_length,
    skipSpace_cons (show isSpace ':' = false from rfl), h hfuel hrest, String.ofList_toList]
  rfl

theorem readEntries?_commaSeparated {depth : Nat} {first : String × Document} {others : Entries}
    (h : ∀ entry ∈ first :: others, Reads depth entry.2) {fuel : Nat}
    (hfuel : (commaSeparated (printEntries (first :: others))).length < fuel) (rest : List Char) :
    readEntries? depth fuel (commaSeparated (printEntries (first :: others)) ++ '\x7d' :: rest) =
      some (settledEntries (first :: others), rest) := by
  obtain ⟨fuel, rfl⟩ := Nat.exists_eq_add_one_of_ne_zero (Nat.ne_zero_of_lt hfuel)
  rw [Nat.lt_succ_iff] at hfuel
  induction others generalizing first fuel with
  | nil =>
    obtain ⟨key, value⟩ := first
    have hvalue : Reads depth value := h (key, value) (by simp)
    rw [printEntries, printEntries, commaSeparated, List.length_append, List.length_cons] at hfuel
    rw [printEntries, printEntries, commaSeparated,
      readEntries?_entry key hvalue (by omega) (by simp)]
    rfl
  | cons second others ih =>
    obtain ⟨key, value⟩ := first
    obtain ⟨key', value'⟩ := second
    have hvalue : Reads depth value := h (key, value) (by simp)
    rw [printEntries, printEntries, commaSeparated_cons_cons, ← printEntries] at hfuel ⊢
    simp only [List.length_append, List.length_cons] at hfuel
    obtain ⟨fuel, rfl⟩ := Nat.exists_eq_add_one_of_ne_zero (n := fuel) (by omega)
    have hothers := ih (fun entry hentry => h entry (List.mem_cons_of_mem _ hentry)) fuel (by omega)
    rw [List.append_assoc, List.cons_append, readEntries?_entry key hvalue (by omega) (by simp)]
    rw [skipSpace_cons (show isSpace ',' = false from rfl), readOthers?, hothers]
    rfl

/-- Some fuel is left at every value, since its text is not empty. -/
theorem Writable.reads_of_succ {depth : Nat} {d : Document} (h : Writable depth d)
    (hread : ∀ {fuel : Nat} {rest : List Char}, (print d).length ≤ fuel + 1 → Closes rest →
      readValue? depth (fuel + 1) (print d ++ rest) = some (settled d, rest)) : Reads depth d := by
  intro fuel rest hfuel hrest
  obtain ⟨c, cs, hprint, -⟩ := h.exists_print_eq_cons
  have hpos : fuel ≠ 0 := by
    rw [hprint, List.length_cons] at hfuel
    omega
  obtain ⟨fuel, rfl⟩ := Nat.exists_eq_add_one_of_ne_zero hpos
  exact hread hfuel hrest

theorem Writable.reads_list {depth : Nat} {items : List Document}
    (h : ∀ item ∈ items, Writable depth item) (ih : ∀ item ∈ items, Reads depth item) :
    Reads (depth + 1) (.list items) := by
  refine (Writable.list h).reads_of_succ fun {fuel rest} hfuel _ => ?_
  rw [print, List.length_cons, List.length_append, List.length_singleton] at hfuel
  rw [print, settled, List.cons_append, List.append_assoc, List.singleton_append, readValue?,
    skipSpace_cons rfl]
  cases items with
  | nil => rfl
  | cons first others =>
    obtain ⟨c, cs, hprint, hspace, hbracket⟩ := (h first (by simp)).exists_print_eq_cons
    obtain ⟨more, hmore⟩ := exists_commaSeparated_eq (print first) (printItems others)
    have hlength : (commaSeparated (printItems (first :: others))).length < fuel := by omega
    have hitems := readItems?_commaSeparated ih hlength rest
    rw [printItems, hmore, hprint, List.cons_append, List.cons_append] at hitems ⊢
    simp only [skipSpace_cons hspace]
    split
    · rename_i heq
      exact absurd (List.head_eq_of_cons_eq heq) hbracket
    · rw [hitems]
      rfl

theorem Writable.reads_table {depth : Nat} {entries : Entries}
    (h : ∀ entry ∈ entries, Writable depth entry.2) (ih : ∀ entry ∈ entries, Reads depth entry.2) :
    Reads (depth + 1) (.table entries) := by
  refine (Writable.table h).reads_of_succ fun {fuel rest} hfuel _ => ?_
  rw [print, List.length_cons, List.length_append, List.length_singleton] at hfuel
  rw [print, settled, List.cons_append, List.append_assoc, List.singleton_append, readValue?,
    skipSpace_cons rfl]
  cases entries with
  | nil => rfl
  | cons first others =>
    obtain ⟨key, value⟩ := first
    obtain ⟨more, hmore⟩ := exists_commaSeparated_eq
      (printString key.toList ++ ':' :: print value) (printEntries others)
    have hlength : (commaSeparated (printEntries ((key, value) :: others))).length < fuel := by
      omega
    have hentries := readEntries?_commaSeparated ih hlength rest
    rw [printEntries, hmore, printString, List.cons_append, List.cons_append, List.cons_append]
      at hentries ⊢
    simp only [skipSpace_cons (show isSpace '"' = false from rfl), hentries]
    rfl

/-- Every value that can be written is read from its text. -/
theorem Writable.reads {depth : Nat} {d : Document} (h : Writable depth d) : Reads depth d := by
  induction h with
  | null => exact Writable.null.reads_of_succ fun _ _ => rfl
  | boolean value =>
    refine (Writable.boolean value).reads_of_succ fun _ _ => ?_
    cases value <;> rfl
  | @integer _ n low high =>
    refine (Writable.integer low high).reads_of_succ fun _ hrest => ?_
    obtain ⟨c, cs, hprint⟩ := List.exists_cons_of_ne_nil (toString_ne_nil n)
    have hc : c = '-' ∨ isDecimal c = true :=
      sign_or_digit_of_mem_toString (hprint ▸ List.mem_cons_self)
    have hread := readNumber?_toString low high hrest
    rw [hprint] at hread
    rw [print, hprint, List.cons_append, readValue?_of_sign_or_digit hc]
    exact hread
  | string s =>
    refine (Writable.string s).reads_of_succ fun _ _ => ?_
    rw [print, printString, List.cons_append, List.append_assoc, List.singleton_append, readValue?,
      skipSpace_cons rfl]
    simp only [readChars?_length, Option.map_some, String.ofList_toList, settled]
  | list h ih => exact reads_list h ih
  | table h ih => exact reads_table h ih

/-! ## Texts -/

/-- A value that can be written is read back from its text, with its tables in the order of their
keys. -/
theorem parse?_render {d : Document} (h : Writable 127 d) :
    parse? (render d) = some (settled d) := by
  have hread : readValue? 127 (2 * (print d).length + 2) (print d ++ []) = some (settled d, []) :=
    h.reads (by omega) closes_nil
  rw [List.append_nil] at hread
  rw [parse?, render, String.toList_ofList, parseChars?, hread]
  rfl

/-! ## No control characters -/

theorem printItems_eq_map (items : List Document) : printItems items = items.map print := by
  induction items with
  | nil => rfl
  | cons item others ih => rw [printItems, ih, List.map_cons]

theorem printEntries_eq_map (entries : Entries) :
    printEntries entries =
      entries.map fun entry => printString entry.1.toList ++ ':' :: print entry.2 := by
  induction entries with
  | nil => rfl
  | cons entry others ih => rw [printEntries, ih, List.map_cons]

theorem mem_commaSeparated {texts : List (List Char)} {c : Char} (h : c ∈ commaSeparated texts) :
    c = ',' ∨ ∃ text ∈ texts, c ∈ text := by
  fun_induction commaSeparated texts with
  | case1 => cases h
  | case2 text => exact .inr ⟨text, by simp, h⟩
  | case3 text others _ ih =>
    rw [List.mem_append, List.mem_cons] at h
    rcases h with h | rfl | h
    · exact .inr ⟨text, by simp, h⟩
    · exact .inl rfl
    · refine (ih h).imp id ?_
      rintro ⟨other, hother, hc⟩
      exact ⟨other, List.mem_cons_of_mem text hother, hc⟩

theorem le_of_mem_of_all {cs : List Char} (h : (cs.all fun c => 0x20 ≤ c.toNat) = true) {c : Char}
    (hc : c ∈ cs) : 0x20 ≤ c.toNat :=
  of_decide_eq_true (List.all_eq_true.1 h c hc)

/-- The text of a value has no control characters, whatever its strings hold. -/
theorem Writable.le_of_mem_print {depth : Nat} {d : Document} (h : Writable depth d) {c : Char}
    (hc : c ∈ print d) : 0x20 ≤ c.toNat := by
  induction h generalizing c with
  | null =>
    rw [print] at hc
    exact le_of_mem_of_all rfl hc
  | boolean value =>
    cases value with
    | true =>
      rw [print] at hc
      exact le_of_mem_of_all rfl hc
    | false =>
      rw [print] at hc
      exact le_of_mem_of_all rfl hc
  | @integer _ n =>
    rw [print] at hc
    rcases sign_or_digit_of_mem_toString hc with rfl | hdigit
    · decide
    · rw [isDecimal, Bool.and_eq_true, decide_eq_true_eq] at hdigit
      exact Nat.le_trans (by decide) hdigit.1
  | string s =>
    rw [print] at hc
    exact le_of_mem_printString hc
  | list h ih =>
    rw [print, List.mem_cons, List.mem_append, List.mem_singleton] at hc
    rcases hc with rfl | hc | rfl
    · decide
    · rw [printItems_eq_map] at hc
      rcases mem_commaSeparated hc with rfl | ⟨text, htext, hc⟩
      · decide
      · obtain ⟨item, hitem, rfl⟩ := List.mem_map.1 htext
        exact ih item hitem hc
    · decide
  | table h ih =>
    rw [print, List.mem_cons, List.mem_append, List.mem_singleton] at hc
    rcases hc with rfl | hc | rfl
    · decide
    · rw [printEntries_eq_map] at hc
      rcases mem_commaSeparated hc with rfl | ⟨text, htext, hc⟩
      · decide
      · obtain ⟨entry, hentry, rfl⟩ := List.mem_map.1 htext
        rw [List.mem_append, List.mem_cons] at hc
        rcases hc with hc | rfl | hc
        · exact le_of_mem_printString hc
        · decide
        · exact ih entry hentry hc
    · decide

end Jukebox.Json
