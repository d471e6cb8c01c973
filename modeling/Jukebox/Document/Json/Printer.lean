import Jukebox.Document.Basic
import Jukebox.Decimal.Style
import Jukebox.Text.Digits

/-!
# JSON, written

The compact form: no blanks between the tokens, strings with the escapes that JSON asks for and no
others, entries in the order of the table.
-/

namespace Jukebox.Json

open Text Decimal

/-- One character inside a string. Controls have their short names where JSON knows one, and
four hexadecimal digits otherwise. -/
def escapeChar (c : Char) : List Char :=
  match c with
  | '"' => ['\\', '"']
  | '\\' => ['\\', '\\']
  | '\x08' => ['\\', 'b']
  | '\x0c' => ['\\', 'f']
  | '\n' => ['\\', 'n']
  | '\r' => ['\\', 'r']
  | '\t' => ['\\', 't']
  | c => if c.toNat < 0x20 then '\\' :: 'u' :: hexPadded 4 c.toNat else [c]

/-- A string between its quotes. -/
def printString (s : List Char) : List Char :=
  '"' :: (s.flatMap escapeChar ++ ['"'])

/-- The items with commas between them. -/
def commaSeparated : List (List Char) → List Char
  | [] => []
  | [item] => item
  | item :: others => item ++ ',' :: commaSeparated others

mutual

/-- The text of a value. JSON has no word for the floating-point numbers that are not finite, nor
for dates; they are written as `null`. -/
def print : Document → List Char
  | .null => ['n', 'u', 'l', 'l']
  | .boolean true => ['t', 'r', 'u', 'e']
  | .boolean false => ['f', 'a', 'l', 's', 'e']
  | .integer n => (toString n).toList
  | .float x => if x.isFinite then (x.render .scientific).toList else ['n', 'u', 'l', 'l']
  | .string s => printString s.toList
  | .datetime => ['n', 'u', 'l', 'l']
  | .list items => '[' :: (commaSeparated (printItems items) ++ [']'])
  | .table entries => '\x7b' :: (commaSeparated (printEntries entries) ++ ['\x7d'])

/-- The texts of the items of a list. -/
def printItems : List Document → List (List Char)
  | [] => []
  | item :: others => print item :: printItems others

/-- The texts of the entries of a table. -/
def printEntries : List (String × Document) → List (List Char)
  | [] => []
  | (key, value) :: others =>
    (printString key.toList ++ ':' :: print value) :: printEntries others

end

/-- The compact text of a value. -/
def render (value : Document) : String :=
  String.ofList (print value)

end Jukebox.Json
