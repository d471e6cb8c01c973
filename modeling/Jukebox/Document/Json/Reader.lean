import Jukebox.Document.Basic
import Jukebox.Text.Digits

/-!
# JSON, read

A reader for JSON texts. Integers between `-2 ^ 63` and `2 ^ 64 - 1` stay exact; a number with a
fraction or a power of ten, a longer integer, and `-0` are floating point. Tables come out in the
order of their keys, and of two entries under one key the later one stays. Values may be nested
to a depth of 127.

Fuel bounds the nesting of calls; the length of the text is always enough.
-/

namespace Jukebox.Json

open Text Decimal

/-- The four blanks of JSON. -/
def isSpace (c : Char) : Bool :=
  c = ' ' || c = '\n' || c = '\t' || c = '\r'

/-- What follows the blanks. -/
def skipSpace (cs : List Char) : List Char :=
  cs.dropWhile isSpace

/-- The character of a pair of surrogates. -/
def ofSurrogates (high low : Nat) : Char :=
  Char.ofNat (0x10000 + (high - 0xD800) * 0x400 + (low - 0xDC00))

/-- The character that four hexadecimal digits after `\u` stand for, together with the second half
of a pair where the first half of one is given. -/
def readUnicode? (cs : List Char) : Option (Char × List Char) :=
  match hexNumber? 4 cs with
  | none => none
  | some (n, rest) =>
    if 0xDC00 ≤ n ∧ n ≤ 0xDFFF then none
    else if 0xD800 ≤ n ∧ n ≤ 0xDBFF then
      match rest with
      | '\\' :: 'u' :: rest =>
        match hexNumber? 4 rest with
        | some (low, rest) =>
          if 0xDC00 ≤ low ∧ low ≤ 0xDFFF then some (ofSurrogates n low, rest) else none
        | none => none
      | _ => none
    else some (Char.ofNat n, rest)

/-- The character of an escape, read behind the backslash. -/
def readEscape? : List Char → Option (Char × List Char)
  | '"' :: rest => some ('"', rest)
  | '\\' :: rest => some ('\\', rest)
  | '/' :: rest => some ('/', rest)
  | 'b' :: rest => some ('\x08', rest)
  | 'f' :: rest => some ('\x0c', rest)
  | 'n' :: rest => some ('\n', rest)
  | 'r' :: rest => some ('\r', rest)
  | 't' :: rest => some ('\t', rest)
  | 'u' :: rest => readUnicode? rest
  | _ => none

/-- The characters of a string up to its closing quote. -/
def readChars? : Nat → List Char → Option (List Char × List Char)
  | 0, _ => none
  | _, [] => none
  | fuel + 1, c :: rest =>
    if c = '"' then some ([], rest)
    else if c = '\\' then
      match readEscape? rest with
      | some (d, rest) => (readChars? fuel rest).map fun (cs, rest) => (d :: cs, rest)
      | none => none
    else if c.toNat < 0x20 then none
    else (readChars? fuel rest).map fun (cs, rest) => (c :: cs, rest)

/-- The decimal digits at the start of a text and what follows them. -/
def spanDigits (cs : List Char) : List Char × List Char :=
  (cs.takeWhile isDecimal, cs.dropWhile isDecimal)

/-- The digits of a number as far as 64 bits hold them, and how many digits were left out. -/
def keepDigits (kept : Nat) : List Char → Nat × Nat
  | [] => (kept, 0)
  | d :: rest =>
    let next := kept * 10 + decimalValue d
    if next < UInt64.size then keepDigits next rest else (kept, rest.length + 1)

/-- A number made of digits and a power of ten, each rounded before they are put together. -/
def scaled (digits : Nat) (exponent : Int) : Binary64 :=
  let power (k : Nat) := Binary64.ofRatio false (Nat.pow 10 k) 1
  let size := Binary64.ofRatio false digits 1
  if digits = 0 then size
  else if 308 < exponent then .infinite false
  else if 0 ≤ exponent then size.times (power exponent.toNat)
  else if -308 ≤ exponent then size.dividedBy (power (-exponent).toNat)
  else if -616 ≤ exponent then
    (size.dividedBy (power 308)).dividedBy (power (-exponent - 308).toNat)
  else .finite false 0 (-1074)

/-- The power of ten behind an `e`, of which at least one digit is required. -/
def readPower? : List Char → Option (Int × List Char)
  | 'e' :: rest | 'E' :: rest =>
    let (negative, rest) :=
      match rest with
      | '+' :: rest => (false, rest)
      | '-' :: rest => (true, rest)
      | _ => (false, rest)
    let (digits, rest) := spanDigits rest
    if digits.isEmpty then none
    else
      let n : Int := decimalNat ((digits.dropWhile (· = '0')).take 9)
      some (if negative then -n else n, rest)
  | rest => some (0, rest)

/-- The digits behind a point, of which at least one is required; `none` inside for no point. -/
def readFraction? : List Char → Option (Option (List Char) × List Char)
  | '.' :: rest =>
    let (digits, rest) := spanDigits rest
    if digits.isEmpty then none else some (some digits, rest)
  | rest => some (none, rest)

/-- A number. Leading zeros are not allowed. -/
def readNumber? (cs : List Char) : Option (Document × List Char) :=
  let (negative, cs) :=
    match cs with
    | '-' :: rest => (true, rest)
    | _ => (false, cs)
  let (whole, rest) := spanDigits cs
  if whole.isEmpty ∨ (whole.head? = some '0' ∧ whole.length > 1) then none
  else
    match readFraction? rest with
    | none => none
    | some (fraction, rest) =>
      match readPower? rest with
      | none => none
      | some (power, rest') =>
        let n := decimalNat whole
        let fits := if negative then 0 < n ∧ n ≤ UInt64.size / 2 else n < UInt64.size
        if fraction.isNone ∧ rest'.length = rest.length ∧ fits then
          some (.integer (if negative then -(n : Int) else n), rest')
        else
          let (kept, dropped) := keepDigits 0 whole
          let fractionDigits := fraction.getD []
          let (all, unread) := keepDigits kept fractionDigits
          let exponent : Int := dropped - (fractionDigits.length - unread : Nat) + power
          let x := scaled all exponent
          if x.isFinite then some (.float (x.withSign negative), rest') else none

/-- The word at the start of the text gives way to a value. -/
def readWord? (word : List Char) (value : Document) (cs : List Char) :
    Option (Document × List Char) :=
  if word.isPrefixOf cs then some (value, cs.drop word.length) else none

mutual

/-- The value at the start of the text, and what follows it. `depth` is how many lists and tables
may still be opened. -/
def readValue? (depth : Nat) : Nat → List Char → Option (Document × List Char)
  | 0, _ => none
  | fuel + 1, cs =>
    match skipSpace cs with
    | [] => none
    | '"' :: rest =>
      (readChars? (rest.length + 1) rest).map fun (s, rest) => (.string (String.ofList s), rest)
    | '[' :: rest =>
      match depth with
      | 0 => none
      | depth + 1 =>
        match skipSpace rest with
        | ']' :: rest => some (.list [], rest)
        | _ => (readItems? depth fuel rest).map fun (items, rest) => (.list items, rest)
    | '\x7b' :: rest =>
      match depth with
      | 0 => none
      | depth + 1 =>
        match skipSpace rest with
        | '\x7d' :: rest => some (.table [], rest)
        | _ =>
          (readEntries? depth fuel rest).map fun (entries, rest) =>
            (.table (Document.Entries.sorted entries), rest)
    | 'n' :: rest => readWord? ['u', 'l', 'l'] .null rest
    | 't' :: rest => readWord? ['r', 'u', 'e'] (.boolean true) rest
    | 'f' :: rest => readWord? ['a', 'l', 's', 'e'] (.boolean false) rest
    | c :: rest => readNumber? (c :: rest)

/-- The items of a list, at least one, up to its closing bracket. -/
def readItems? (depth : Nat) : Nat → List Char → Option (List Document × List Char)
  | 0, _ => none
  | fuel + 1, cs =>
    match readValue? depth fuel cs with
    | none => none
    | some (item, rest) =>
      match skipSpace rest with
      | ',' :: rest => (readItems? depth fuel rest).map fun (items, rest) => (item :: items, rest)
      | ']' :: rest => some ([item], rest)
      | _ => none

/-- The entries of a table, at least one, up to its closing brace. -/
def readEntries? (depth : Nat) : Nat → List Char → Option (Document.Entries × List Char)
  | 0, _ => none
  | fuel + 1, cs =>
    match skipSpace cs with
    | '"' :: rest =>
      match readChars? (rest.length + 1) rest with
      | none => none
      | some (key, rest) =>
        match skipSpace rest with
        | ':' :: rest =>
          match readValue? depth fuel rest with
          | none => none
          | some (value, rest) =>
            match skipSpace rest with
            | ',' :: rest =>
              (readEntries? depth fuel rest).map fun (entries, rest) =>
                ((String.ofList key, value) :: entries, rest)
            | '\x7d' :: rest => some ([(String.ofList key, value)], rest)
            | _ => none
        | _ => none
    | _ => none

end

/-- The value of a text that holds one value and nothing else but blanks. -/
def parseChars? (cs : List Char) : Option Document :=
  match readValue? 127 (2 * cs.length + 2) cs with
  | some (value, rest) => if (skipSpace rest).isEmpty then some value else none
  | none => none

/-- The value of a JSON text. -/
def parse? (text : String) : Option Document :=
  parseChars? text.toList

end Jukebox.Json
