import Jukebox.Text.Digits
import Jukebox.Text.Utf8

/-!
# Session identifiers in text

A UUID is 32 hexadecimal digits. It is written in five groups with hyphens between them, and read
in that form, without the hyphens, between braces, or behind `urn:uuid:`.

When a text is no UUID, its message names the first thing wrong with it: a character, else the
number of groups, else the length of a group. Positions and lengths count bytes.
-/

namespace Jukebox

open Text

/-- A universally unique identifier, as its hexadecimal digits. -/
structure Uuid where
  digits : List Nat
  length_digits : digits.length = 32
  digits_lt : ∀ d ∈ digits, d < 16
  deriving DecidableEq

namespace Uuid

/-- The identifier that stands for none. -/
def nil : Uuid where
  digits := List.replicate 32 0
  length_digits := by simp
  digits_lt := by simp

/-- The lengths of the five groups. -/
def groups : List Nat := [8, 4, 4, 4, 12]

/-- Cuts a list into groups of the given lengths. -/
def grouped {α : Type} : List Nat → List α → List (List α)
  | [], _ => []
  | n :: lengths, l => l.take n :: grouped lengths (l.drop n)

/-- The groups with hyphens between them. -/
def hyphenate : List (List Char) → List Char
  | [] => []
  | [group] => group
  | group :: others => group ++ '-' :: hyphenate others

/-- The hyphenated form, in lower case. -/
def chars (u : Uuid) : List Char :=
  hyphenate (grouped groups (u.digits.map hexDigit))

/-- The hyphenated form, in lower case. -/
def render (u : Uuid) : String :=
  String.ofList u.chars

/-- The identifier with the given digits, if they are 32 hexadecimal ones. -/
def ofDigits? (digits : List Nat) : Option Uuid :=
  if h : digits.length = 32 ∧ ∀ d ∈ digits, d < 16 then some ⟨digits, h.1, h.2⟩ else none

/-- Reads 32 hexadecimal digits. -/
def readSimple? (cs : List Char) : Option Uuid :=
  (cs.mapM hexValue?).bind ofDigits?

/-- Reads groups with hyphens between them. -/
def readGroups? : List Nat → List Char → Option (List Nat)
  | [], cs => if cs.isEmpty then some [] else none
  | [n], cs => if cs.length = n then cs.mapM hexValue? else none
  | n :: lengths, cs =>
    match (cs.take n).mapM hexValue?, cs.drop n with
    | some digits, '-' :: rest => (readGroups? lengths rest).map (digits ++ ·)
    | _, _ => none

/-- Reads the hyphenated form. -/
def readHyphenated? (cs : List Char) : Option Uuid :=
  (readGroups? groups cs).bind ofDigits?

/-- What surrounds a UUID in two of its forms. -/
def unwrap (cs : List Char) : List Char × Nat :=
  let braced : Option (List Char) :=
    match cs with
    | '\x7b' :: rest => if rest.getLast? = some '\x7d' then some rest.dropLast else none
    | _ => none
  match braced with
  | some inner => (inner, 1)
  | none =>
    let lead := ['u', 'r', 'n', ':', 'u', 'u', 'i', 'd', ':']
    if lead.isPrefixOf cs then (cs.drop lead.length, lead.length) else (cs, 0)

/-- Why a text is no UUID. -/
inductive ReadError
  /-- A character that belongs to no UUID, and the byte where it stands. -/
  | badChar (c : Char) (position : Nat)
  /-- Only digits, but not 32 of them. -/
  | badLength (length : Nat)
  /-- Not five groups. -/
  | badGroupCount (count : Nat)
  /-- A group of the wrong length. -/
  | badGroupLength (group expected length : Nat)
  deriving Repr, DecidableEq

/-- What is wrong with the text. -/
def ReadError.message : ReadError → String
  | badChar c position =>
    s!"UUID parsing failed: invalid character: found \x60{c}\x60 at {position}"
  | badLength length => s!"UUID parsing failed: invalid length: found {length}"
  | badGroupCount count => s!"UUID parsing failed: invalid group count: expected 5, found {count}"
  | badGroupLength group expected length =>
    s!"UUID parsing failed: invalid group length in group {group}: " ++
      s!"expected {expected}, found {length}"

/-- The first character that is neither a digit nor a hyphen, with its position, where the text
begins at `position`. -/
def badChar? (position : Nat) : List Char → Option (Char × Nat)
  | [] => none
  | c :: rest =>
    if c = '-' ∨ (hexValue? c).isSome then badChar? (position + c.utf8Size) rest
    else some (c, position)

/-- The lengths of the groups that the hyphens make. -/
def groupLengths : List Char → List Nat
  | [] => [0]
  | c :: rest =>
    if c = '-' then 0 :: groupLengths rest
    else
      match groupLengths rest with
      | [] => [1]
      | n :: others => (n + 1) :: others

/-- What is wrong with a text that is in none of the forms. -/
def diagnose (text : String) : ReadError :=
  let cs := text.toList
  let (inner, offset) := unwrap cs
  let lengths := groupLengths inner
  match badChar? offset inner with
  | some (c, position) => .badChar c position
  | none =>
    if lengths.length = 1 ∧ offset = 0 then .badLength (byteLength text)
    else if lengths.length ≠ 5 then .badGroupCount lengths.length
    else
      let checks := (groups.take 4).zip lengths
      match checks.findIdx? (fun check => check.1 ≠ check.2) with
      | some group => .badGroupLength group (groups.getD group 0) (lengths.getD group 0)
      | none => .badGroupLength 4 12 (byteLength text - 24)

/-- The identifier that a text stands for. -/
def parse? (text : String) : Except ReadError Uuid :=
  let cs := text.toList
  let (inner, offset) := unwrap cs
  let read := if offset = 0 ∧ cs.length = 32 then readSimple? cs else readHyphenated? inner
  match read with
  | some u => .ok u
  | none => .error (diagnose text)

end Uuid

end Jukebox
