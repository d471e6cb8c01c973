import Jukebox.Decimal.Binary64

/-!
# Documents

The values that settings files and JSON texts hold. A table is the list of its entries in the
order that its format gives them: the order of the file for settings, the order of the keys for
JSON.
-/

namespace Jukebox

open Decimal

/-- A value of a document. -/
inductive Document
  | null
  | boolean (value : Bool)
  | integer (value : Int)
  | float (value : Binary64)
  | string (value : String)
  /-- A date, a time of day or both, which the settings here have no use for. -/
  | datetime
  | list (items : List Document)
  | table (entries : List (String × Document))

namespace Document

/-- The entries of a table. -/
abbrev Entries := List (String × Document)

/-- The value under a key. -/
def Entries.get? (entries : Entries) (key : String) : Option Document :=
  (entries.find? fun entry => entry.1 == key).map Prod.snd

/-- Keys are ordered by their characters. -/
def isBefore (key other : String) : Bool :=
  key.toList.lex other.toList fun c d => c.toNat < d.toNat

/-- The value goes under the key in the order of the keys, in place of one that is there. -/
def Entries.insertSorted (key : String) (value : Document) : Entries → Entries
  | [] => [(key, value)]
  | entry :: rest =>
    if key = entry.1 then (key, value) :: rest
    else if isBefore key entry.1 then (key, value) :: entry :: rest
    else entry :: insertSorted key value rest

/-- The entries in the order of their keys; of several under one key the last one stays. -/
def Entries.sorted (entries : Entries) : Entries :=
  entries.foldl (fun done entry => done.insertSorted entry.1 entry.2) []

/-- The value just put under a key is the one found there. -/
theorem Entries.get?_insertSorted_self (entries : Entries) (key : String) (value : Document) :
    (entries.insertSorted key value).get? key = some value := by
  induction entries with
  | nil => simp [insertSorted, get?]
  | cons entry rest ih =>
    rw [insertSorted]
    split
    · simp [get?]
    · split
      · simp [get?]
      · rename_i h _
        have : (entry.1 == key) = false := by simpa using fun e => h e.symm
        simpa [get?, List.find?_cons, this] using ih

/-- Putting a value under one key leaves the others alone. -/
theorem Entries.get?_insertSorted_of_ne (entries : Entries) {key other : String}
    (value : Document) (h : key ≠ other) :
    (entries.insertSorted key value).get? other = entries.get? other := by
  have hk : (key == other) = false := by simpa using h
  induction entries with
  | nil => simp [insertSorted, get?, hk]
  | cons entry rest ih =>
    rw [insertSorted]
    split
    · rename_i he
      have : (entry.1 == other) = false := by simpa [← he] using h
      simp [get?, this, hk]
    · split
      · simp [get?, List.find?_cons, hk]
      · by_cases ho : entry.1 = other
        · simp [get?, ho]
        · have : (entry.1 == other) = false := by simpa using ho
          simpa [get?, List.find?_cons, this] using ih

end Document

end Jukebox
