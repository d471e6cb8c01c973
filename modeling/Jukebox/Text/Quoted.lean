import Jukebox.Text.Digits
import Jukebox.Text.Printable

/-!
# Quoted text

How a text is shown inside a message: between double quotes, with the quote and the backslash
escaped, four controls under their short names and every other unprintable character by its
hexadecimal number.
-/

namespace Jukebox.Text

/-- One character as it stands between quotes. -/
def quotedChar (c : Char) : List Char :=
  match c with
  | '"' => ['\\', '"']
  | '\\' => ['\\', '\\']
  | '\n' => ['\\', 'n']
  | '\r' => ['\\', 'r']
  | '\t' => ['\\', 't']
  | '\x00' => ['\\', '0']
  | c =>
    if isPrintable c then [c]
    else '\\' :: 'u' :: '\x7b' :: (hexadecimal c.toNat ++ ['\x7d'])

/-- The text between double quotes. -/
def quoted (s : String) : String :=
  String.ofList ('"' :: (s.toList.flatMap quotedChar ++ ['"']))

end Jukebox.Text
