import Jukebox.Document.Toml.Node
import Jukebox.Document.Toml.Strings

/-!
# TOML, read

A reader for TOML 1.0 documents. Lists and tables within a line may be nested to a depth of 79, and
a key may have 79 parts.

Fuel bounds the nesting of calls; the length of the text is always enough.
-/

namespace Jukebox.Toml

open Text

/-- The depth of nesting, and the number of parts of a key, that is too large. -/
def tooDeep : Nat := 80

/-- A character of a key without quotes. -/
def isBare (c : Char) : Bool :=
  ('a' ≤ c && c ≤ 'z') || ('A' ≤ c && c ≤ 'Z') || isDecimal c || c = '-' || c = '_'

/-- What follows the blanks within the line. -/
def skipSpace (cs : List Char) : List Char :=
  cs.dropWhile isSpace

/-- What follows a comment, if there is one: the end of its line. `none` for a comment that holds
a control. -/
def skipComment? : List Char → Option (List Char)
  | '#' :: rest =>
    let rest := rest.dropWhile isPlain
    match rest with
    | [] => some []
    | '\n' :: _ | '\r' :: '\n' :: _ => some rest
    | _ => none
  | cs => some cs

/-- What follows blanks, comments and line breaks. -/
def skipAll? : Nat → List Char → Option (List Char)
  | 0, _ => none
  | fuel + 1, cs =>
    match skipSpace cs with
    | [] => some []
    | '#' :: rest =>
      match skipComment? ('#' :: rest) with
      | some rest => skipAll? fuel rest
      | none => none
    | c :: rest =>
      match lineBreak? (c :: rest) with
      | some rest => skipAll? fuel rest
      | none => some (c :: rest)

/-- One part of a key: a bare word or a string within a line. -/
def readKeyPart? : List Char → Option (String × List Char)
  | '"' :: rest =>
    (readLine? '"' true (rest.length + 1) rest).map fun (s, rest) => (String.ofList s, rest)
  | '\x27' :: rest =>
    (readLine? '\x27' false (rest.length + 1) rest).map fun (s, rest) => (String.ofList s, rest)
  | cs =>
    let word := cs.takeWhile isBare
    if word.isEmpty then none else some (String.ofList word, cs.dropWhile isBare)

/-- The parts of a key with points between them, and the rest behind the blanks after the last. -/
def readKeyParts? : Nat → List Char → Option (List String × List Char)
  | 0, _ => none
  | fuel + 1, cs => do
    let (part, rest) ← readKeyPart? (skipSpace cs)
    match skipSpace rest with
    | '.' :: rest =>
      let (parts, rest) ← readKeyParts? fuel rest
      return (part :: parts, rest)
    | rest => return ([part], rest)

/-- A key as the path before its last part, and that part. -/
def readKey? (cs : List Char) : Option ((List String × String) × List Char) := do
  let (parts, rest) ← readKeyParts? (cs.length + 1) cs
  if tooDeep ≤ parts.length then none
  let last ← parts.getLast?
  return ((parts.dropLast, last), rest)

mutual

/-- The value at the start of the text, and what follows it. `depth` lists and tables are open
around it. -/
def readValue? (depth : Nat) : Nat → List Char → Option (Document × List Char)
  | 0, _ => none
  | fuel + 1, cs =>
    match cs with
    | '"' :: rest => (readString? '"' rest).map fun (s, rest) => (.string (String.ofList s), rest)
    | '\x27' :: rest =>
      (readString? '\x27' rest).map fun (s, rest) => (.string (String.ofList s), rest)
    | '[' :: rest =>
      if tooDeep ≤ depth + 1 then none
      else (readItems? (depth + 1) fuel rest).map fun (items, rest) => (.list items, rest)
    | '\x7b' :: rest =>
      if tooDeep ≤ depth + 1 then none
      else
        match skipSpace rest with
        | '\x7d' :: rest => some (.table [], rest)
        | rest =>
          (readEntries? (depth + 1) fuel [] rest).map fun (nodes, rest) =>
            (.table (entriesToDocument nodes), rest)
    | _ =>
      let (word, rest) := takeWord cs
      (ofWord? word).map fun value => (value, rest)

/-- The items of a list up to its closing bracket; a comma may follow the last. -/
def readItems? (depth : Nat) : Nat → List Char → Option (List Document × List Char)
  | 0, _ => none
  | fuel + 1, cs =>
    match skipAll? (cs.length + 1) cs with
    | none => none
    | some (']' :: rest) => some ([], rest)
    | some cs =>
      match readValue? depth fuel cs with
      | none => none
      | some (item, rest) =>
        match skipAll? (rest.length + 1) rest with
        | some (',' :: rest) =>
          (readItems? depth fuel rest).map fun (items, rest) => (item :: items, rest)
        | some (']' :: rest) => some ([item], rest)
        | _ => none

/-- The entries of a table within a line, behind those read before, up to its closing brace. -/
def readEntries? (depth : Nat) : Nat → Nodes → List Char → Option (Nodes × List Char)
  | 0, _, _ => none
  | fuel + 1, nodes, cs =>
    match readKey? cs with
    | some ((path, key), '=' :: rest) =>
      match readValue? depth fuel (skipSpace rest) with
      | none => none
      | some (value, rest) =>
        match nodes.addEntry? path key (.value value), skipSpace rest with
        | some nodes, ',' :: rest => readEntries? depth fuel nodes rest
        | some nodes, '\x7d' :: rest => some (nodes, rest)
        | _, _ => none
    | _ => none

end

/-- The next line, behind the blanks and the comment that may follow a statement. -/
def endLine? (cs : List Char) : Option (List Char) :=
  match skipComment? (skipSpace cs) with
  | some [] => some []
  | some rest => lineBreak? rest
  | none => none

/-- The statements of a document, one after the other. -/
def readStatements? : Nat → Assembly → List Char → Option Assembly
  | 0, _, _ => none
  | fuel + 1, a, cs =>
    match skipAll? (cs.length + 1) cs with
    | none => none
    | some [] => some a
    | some ('[' :: '[' :: rest) => do
      let ((path, key), rest) ← readKey? rest
      let rest ← Toml.after? ']' (← Toml.after? ']' rest)
      readStatements? fuel (← a.rowHeader? path key) (← endLine? rest)
    | some ('[' :: rest) => do
      let ((path, key), rest) ← readKey? rest
      let rest ← Toml.after? ']' rest
      readStatements? fuel (← a.header? path key) (← endLine? rest)
    | some cs => do
      let ((path, key), rest) ← readKey? cs
      let rest ← Toml.after? '=' rest
      let (value, rest) ← readValue? 0 (2 * rest.length + 2) (skipSpace rest)
      readStatements? fuel (← a.entry? path key value) (← endLine? rest)

/-- The document of a TOML text, which may begin with a byte order mark. -/
def parse? (text : String) : Option Document :=
  let cs :=
    match text.toList with
    | '\ufeff' :: rest => rest
    | cs => cs
  match readStatements? (cs.length + 1) {} cs with
  | some a => a.finish?
  | none => none

end Jukebox.Toml
