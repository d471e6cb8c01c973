import Jukebox.Text.Utf8

/-!
# Paths

A path is a sequence of bytes. It need not be a text; in messages it is shown as far as it can be
read.
-/

namespace Jukebox

/-- A path. -/
structure Path where
  bytes : List UInt8
  deriving Repr, DecidableEq

namespace Path

/-- The byte of a slash. -/
def slash : UInt8 := 0x2f

/-- The path that a text names. -/
def ofText (text : String) : Path := ⟨Text.bytesOf text⟩

/-- The path in messages. -/
def display (path : Path) : String := Text.shown path.bytes

/-- A path and a name below it. -/
def join (path : Path) (name : String) : Path :=
  if path.bytes = [] ∨ path.bytes.getLast? = some slash then
    ⟨path.bytes ++ Text.bytesOf name⟩
  else ⟨path.bytes ++ slash :: Text.bytesOf name⟩

/-- A path that a text names is shown as the text. -/
@[simp] theorem display_ofText (text : String) : (ofText text).display = text :=
  Text.shown_bytesOf text

end Path

end Jukebox
