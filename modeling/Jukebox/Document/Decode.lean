import Jukebox.Document.Basic
import Jukebox.Decimal.Style
import Jukebox.Text.Quoted

/-!
# Decoding documents

Taking typed values out of a document, and what to say where it holds something else. The two
dialects differ in a few rules: how a floating-point number is shown, how a choice between words
may be spelled, and whether a list that stands for a record may be too long.

A record is described by its fields, each with a key and a way to set it. Fields are decoded in
the order of the table's entries, so the first one that fails is the one reported.
-/

namespace Jukebox

open Text Decimal

/-- The format a document was read from. -/
inductive Dialect
  | json
  | toml
  deriving DecidableEq

/-- What a document holds where something else was expected. -/
inductive Found
  | null
  | boolean (value : Bool)
  | integer (value : Int)
  | float (text : String)
  | string (value : String)
  | sequence
  | map
  deriving Repr, DecidableEq

/-- Why a document cannot be decoded. -/
inductive DecodeError
  /-- A value of the wrong kind. -/
  | wrongType (found : Found) (expected : String)
  /-- A value of the right kind, but out of range. -/
  | wrongValue (found : Found) (expected : String)
  /-- A word that is none of the choices. -/
  | unknownVariant (name : String) (known : List String)
  /-- A required field is absent. -/
  | missingField (name : String)
  /-- A list of the wrong length. -/
  | wrongLength (length : Nat) (expected : String)
  /-- The rule of the field's own text format is broken. -/
  | malformed (reason : String)
  deriving Repr, DecidableEq

/-- A word between the marks that set off values in messages. -/
def marked (text : String) : String :=
  "\x60" ++ text ++ "\x60"

namespace Found

/-- The words for what was found. -/
def describe : Found → String
  | null => "null"
  | boolean b => "boolean " ++ marked (if b then "true" else "false")
  | integer n => "integer " ++ marked (toString n)
  | float text => "floating point " ++ marked text
  | string s => "string " ++ quoted s
  | sequence => "sequence"
  | map => "map"

end Found

namespace DecodeError

/-- The choices of a word: one alone, two joined by "or", more as a list. -/
def choices : List String → String
  | [] => "there are no variants"
  | [a] => "expected " ++ marked a
  | [a, b] => "expected " ++ marked a ++ " or " ++ marked b
  | many => "expected one of " ++ String.intercalate ", " (many.map marked)

/-- The message for a document that cannot be decoded. -/
def message : DecodeError → String
  | wrongType found expected => s!"invalid type: {found.describe}, expected {expected}"
  | wrongValue found expected => s!"invalid value: {found.describe}, expected {expected}"
  | unknownVariant name known => s!"unknown variant {marked name}, {choices known}"
  | missingField name => s!"missing field {marked name}"
  | wrongLength length expected => s!"invalid length {length}, expected {expected}"
  | malformed reason => reason

end DecodeError

/-- A decoder of values of a type. -/
abbrev Decoded (α : Type) := Except DecodeError α

@[simp] theorem Decoded.ok_bind {α β : Type} (a : α) (next : α → Decoded β) :
    (Except.ok a >>= next) = next a := rfl

@[simp] theorem Decoded.pure_eq_ok {α : Type} (a : α) : (pure a : Decoded α) = .ok a := rfl

namespace Document

/-- What a document holds, in the words of its dialect. -/
def found (dialect : Dialect) : Document → Found
  | null => .null
  | boolean b => .boolean b
  | integer n => .integer n
  | float x => .float (x.render (match dialect with | .json => .scientific | .toml => .plain))
  | string s => .string s
  | datetime => .map
  | list _ => .sequence
  | table _ => .map

/-- The document is of the wrong kind. -/
def mismatch {α : Type} (dialect : Dialect) (expected : String) (d : Document) : Decoded α :=
  .error (.wrongType (d.found dialect) expected)

/-- A text. -/
def toText (dialect : Dialect) : Document → Decoded String
  | string s => .ok s
  | d => d.mismatch dialect "a string"

/-- A truth value. -/
def toFlag (dialect : Dialect) : Document → Decoded Bool
  | boolean b => .ok b
  | d => d.mismatch dialect "a boolean"

/-- A natural number below `size`; `expected` names the type of such numbers. -/
def toBounded (dialect : Dialect) (size : Nat) (expected : String) : Document → Decoded (Fin size)
  | integer n =>
    if h : n.toNat < size ∧ 0 ≤ n then .ok ⟨n.toNat, h.1⟩
    else .error (.wrongValue (.integer n) expected)
  | d => d.mismatch dialect expected

/-- A natural number of 64 bits. -/
def toWord64 (dialect : Dialect) (expected : String) (d : Document) : Decoded UInt64 :=
  (d.toBounded dialect UInt64.size expected).map UInt64.ofFin

/-- A natural number of 32 bits. -/
def toWord32 (dialect : Dialect) (expected : String) (d : Document) : Decoded UInt32 :=
  (d.toBounded dialect UInt32.size expected).map UInt32.ofFin

/-- A list of texts. -/
def toTexts (dialect : Dialect) : Document → Decoded (List String)
  | list items => items.mapM (toText dialect)
  | d => d.mismatch dialect "a sequence"

/-- The kind of a TOML value in the words used where a variant's value should be empty. -/
def tomlKind : Document → String
  | string _ => "string"
  | integer _ => "integer"
  | float _ => "float"
  | boolean _ => "boolean"
  | datetime => "datetime"
  | list _ => "array"
  | table _ => "table"
  | null => "none"

/-- The word for a variant that has no value of its own. -/
def toVariant {α : Type} (known : List (String × α)) (name : String) : Decoded α :=
  match known.find? fun entry => entry.1 == name with
  | some (_, value) => .ok value
  | none => .error (.unknownVariant name (known.map Prod.fst))

/-- One of several words, or a table whose only key is one of them and whose value is empty. -/
def toChoice {α : Type} (dialect : Dialect) (known : List (String × α)) : Document → Decoded α
  | string name => toVariant known name
  | table entries =>
    match dialect, entries with
    | .json, [(name, value)] => do
      let choice ← toVariant known name
      match value with
      | null => .ok choice
      | value => value.mismatch dialect "unit"
    | .json, _ => .error (.wrongValue .map "map with a single key")
    | .toml, [(name, value)] => do
      let choice ← toVariant known name
      match value with
      | table [] | list [] => .ok choice
      | table _ | list _ => .error (.malformed "expected empty table")
      | value => .error (.malformed s!"expected table, found {value.tomlKind}")
    | .toml, [] => .error (.malformed "wanted exactly 1 element, found 0 elements")
    | .toml, _ => .error (.malformed "wanted exactly 1 element, more than 1 element")
  | d =>
    match dialect with
    | .json => d.mismatch dialect "string or map"
    | .toml => .error (.malformed "wanted string or table")

/-- A field of a record: its key, and how a document sets it. -/
structure RecordField (α : Type) where
  key : String
  set : α → Document → Decoded α

/-- The field with a given key. -/
def RecordField.find? {α : Type} (fields : List (RecordField α)) (key : String) :
    Option (RecordField α) :=
  fields.find? fun field => field.key == key

/-- Every entry sets the field of its key; entries without one are passed over. -/
def setEntries {α : Type} (fields : List (RecordField α)) : Entries → α → Decoded α
  | [], base => .ok base
  | (key, value) :: rest, base =>
    match RecordField.find? fields key with
    | some field => do setEntries fields rest (← field.set base value)
    | none => setEntries fields rest base

/-- The items of a list set the fields in their order, and fields without an item stay. What to do
with items that have no field is left to the dialect. -/
def setItems {α : Type} (dialect : Dialect) (total : Nat) :
    List (RecordField α) → List Document → α → Decoded α
  | [], [], base => .ok base
  | [], _ :: _, base =>
    match dialect with
    | .json => .error (.wrongLength total "fewer elements in array")
    | .toml => .ok base
  | _ :: _, [], base => .ok base
  | field :: fields, item :: items, base => do
    setItems dialect total fields items (← field.set base item)

/-- A record, which overlays `base` with the fields that the document gives. A date counts as a
table whose keys no record knows. -/
def toRecord {α : Type} (dialect : Dialect) (name : String) (fields : List (RecordField α))
    (base : α) : Document → Decoded α
  | table entries => setEntries fields entries base
  | list items => setItems dialect items.length fields items base
  | datetime => .ok base
  | d => d.mismatch dialect ("struct " ++ name)

end Document

end Jukebox
