/-!
# Text as bytes

Reading bytes as UTF-8. Core's reader decides which byte sequences are text; this module adds how
far a text reaches in bytes, and what is shown of bytes that are no text: what can be read of them,
with a replacement character for every part that cannot.
-/

namespace Jukebox.Text

/-- The text that the bytes encode; `none` where they are not UTF-8. -/
def ofBytes? (bytes : List UInt8) : Option String :=
  String.fromUTF8? (ByteArray.mk bytes.toArray)

/-- The bytes of a text. -/
def bytesOf (s : String) : List UInt8 :=
  s.toUTF8.data.toList

/-- The number of bytes a text takes. -/
def byteLength (s : String) : Nat :=
  s.utf8ByteSize

/-! ## Broken text -/

/-- What is shown in place of bytes that are no text. -/
def replacement : Char := '\uFFFD'

/-- A character of which only the first bytes have been read. -/
structure Begun where
  /-- What the bytes so far contribute to its code. -/
  bits : Nat
  /-- How many bytes are still to come. -/
  owed : Nat
  /-- The least byte that may come next. -/
  low : UInt8 := 0x80
  /-- The greatest byte that may come next. -/
  high : UInt8 := 0xbf

/-- The character of several bytes that a byte begins. -/
def begin? (b : UInt8) : Option Begun :=
  if 0xc2 ≤ b ∧ b ≤ 0xdf then some { bits := b.toNat - 0xc0, owed := 1 }
  else if b = 0xe0 then some { bits := 0, owed := 2, low := 0xa0 }
  else if b = 0xed then some { bits := 0xd, owed := 2, high := 0x9f }
  else if 0xe1 ≤ b ∧ b ≤ 0xef then some { bits := b.toNat - 0xe0, owed := 2 }
  else if b = 0xf0 then some { bits := 0, owed := 3, low := 0x90 }
  else if b = 0xf4 then some { bits := 4, owed := 3, high := 0x8f }
  else if 0xf1 ≤ b ∧ b ≤ 0xf3 then some { bits := b.toNat - 0xf0, owed := 3 }
  else none

/-- A byte where a character should begin: what is read, and what is begun. -/
def readFirst (b : UInt8) : List Char × Option Begun :=
  if b < 0x80 then ([Char.ofNat b.toNat], none)
  else
    match begin? b with
    | some begun => ([], some begun)
    | none => ([replacement], none)

/-- The next byte. One that does not go on with what was begun begins anew. -/
def readNext : Option Begun → UInt8 → List Char × Option Begun
  | none, b => readFirst b
  | some begun, b =>
    if begun.low ≤ b ∧ b ≤ begun.high then
      let bits := begun.bits * 64 + (b.toNat - 0x80)
      if begun.owed = 1 then ([Char.ofNat bits], none)
      else ([], some { bits, owed := begun.owed - 1 })
    else
      let (cs, begun) := readFirst b
      (replacement :: cs, begun)

/-- What can be read of bytes, after those of a character that has begun. -/
def readLossy : Option Begun → List UInt8 → List Char
  | none, [] => []
  | some _, [] => [replacement]
  | begun, b :: rest =>
    let (cs, begun) := readNext begun b
    cs ++ readLossy begun rest

/-- What is shown of bytes. -/
def shown (bytes : List UInt8) : String :=
  match ofBytes? bytes with
  | some text => text
  | none => String.ofList (readLossy none bytes)

/-- The bytes of a text are read as the text. -/
theorem ofBytes?_bytesOf (s : String) : ofBytes? (bytesOf s) = some s := by
  rw [ofBytes?, bytesOf, Array.toArray_toList, String.fromUTF8?]
  exact dif_pos s.isValidUTF8

/-- Of the bytes of a text, the text is shown. -/
@[simp] theorem shown_bytesOf (s : String) : shown (bytesOf s) = s := by
  rw [shown, ofBytes?_bytesOf]

end Jukebox.Text
