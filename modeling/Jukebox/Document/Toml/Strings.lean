import Jukebox.Document.Toml.Scalar

/-!
# TOML strings

Strings come in two spellings, with escapes and without, and each of them within a line or across
lines. A string across lines drops a line break right behind its opening quotes, counts every line
break as one character, and may end in one or two quotes before the three that close it.
-/

namespace Jukebox.Toml

open Text

/-- The character may stand for itself in a string or a comment. -/
def isPlain (c : Char) : Bool :=
  c = '\t' || (0x20 ≤ c.toNat && c.toNat ≤ 0x7E) || 0x80 ≤ c.toNat

/-- The character with a number, which must not be half of a surrogate pair. -/
def scalarValue? (n : Nat) : Option Char :=
  if n.isValidChar then some (Char.ofNat n) else none

/-- The character of an escape, read behind the backslash. -/
def readEscape? : List Char → Option (Char × List Char)
  | 'b' :: rest => some ('\x08', rest)
  | 't' :: rest => some ('\t', rest)
  | 'n' :: rest => some ('\n', rest)
  | 'f' :: rest => some ('\x0c', rest)
  | 'r' :: rest => some ('\r', rest)
  | '"' :: rest => some ('"', rest)
  | '\\' :: rest => some ('\\', rest)
  | 'u' :: rest => do
    let (n, rest) ← hexNumber? 4 rest
    return (← scalarValue? n, rest)
  | 'U' :: rest => do
    let (n, rest) ← hexNumber? 8 rest
    return (← scalarValue? n, rest)
  | _ => none

/-- The characters of a string within a line, up to the quote that closes it. -/
def readLine? (quote : Char) (escapes : Bool) : Nat → List Char → Option (List Char × List Char)
  | 0, _ => none
  | _, [] => none
  | fuel + 1, c :: rest =>
    if c = quote then some ([], rest)
    else if escapes ∧ c = '\\' then do
      let (d, rest) ← readEscape? rest
      let (cs, rest) ← readLine? quote escapes fuel rest
      return (d :: cs, rest)
    else if isPlain c then do
      let (cs, rest) ← readLine? quote escapes fuel rest
      return (c :: cs, rest)
    else none

/-- The rest behind a line break. -/
def lineBreak? : List Char → Option (List Char)
  | '\n' :: rest => some rest
  | '\r' :: '\n' :: rest => some rest
  | _ => none

/-- What follows the blanks and line breaks. -/
def skipLines : List Char → List Char
  | '\r' :: '\n' :: rest => skipLines rest
  | c :: rest => if isSpace c ∨ c = '\n' then skipLines rest else c :: rest
  | [] => []

/-- What follows a backslash at the end of a line: the next character that is not blank. -/
def foldedLine? (cs : List Char) : Option (List Char) :=
  (lineBreak? (cs.dropWhile isSpace)).map skipLines

/-- The characters of a string across lines, up to the quotes that close it. -/
def readLines? (quote : Char) (escapes : Bool) : Nat → List Char → Option (List Char × List Char)
  | 0, _ => none
  | _, [] => none
  | fuel + 1, c :: rest =>
    if c = quote then
      let run := ((c :: rest).takeWhile (· = quote)).length
      if 3 ≤ run then
        let extra := min run 5 - 3
        some (List.replicate extra quote, (c :: rest).drop (3 + extra))
      else do
        let (cs, rest) ← readLines? quote escapes fuel rest
        return (c :: cs, rest)
    else if escapes ∧ c = '\\' then
      match foldedLine? rest with
      | some rest => readLines? quote escapes fuel rest
      | none => do
        let (d, rest) ← readEscape? rest
        let (cs, rest) ← readLines? quote escapes fuel rest
        return (d :: cs, rest)
    else
      match lineBreak? (c :: rest) with
      | some rest => do
        let (cs, rest) ← readLines? quote escapes fuel rest
        return ('\n' :: cs, rest)
      | none =>
        if isPlain c then do
          let (cs, rest) ← readLines? quote escapes fuel rest
          return (c :: cs, rest)
        else none

/-- A string of either kind, read behind its first quote. Only the double quote knows escapes. -/
def readString? (quote : Char) (cs : List Char) : Option (List Char × List Char) :=
  let escapes := quote = '"'
  match cs with
  | c :: d :: rest =>
    if c = quote ∧ d = quote then
      let rest := (lineBreak? rest).getD rest
      readLines? quote escapes (rest.length + 1) rest
    else readLine? quote escapes (cs.length + 1) cs
  | _ => readLine? quote escapes (cs.length + 1) cs

end Jukebox.Toml
