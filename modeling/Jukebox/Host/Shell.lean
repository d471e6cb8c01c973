import Jukebox.Text.Digits
import Jukebox.Text.Utf8

/-!
# A small shell

The part of the command language that start-up scripts of players are written in: simple commands
joined by `;`, `&&` and `||`, quotes, positional parameters, their lengths and their number, and
arithmetic on integers. What commands print is thrown away, so a script amounts to how long it runs
and the status it exits with.

A parameter outside quotes is split into words at its blanks; an empty one gives no word.
-/

namespace Jukebox.Host.Shell

open Text

/-- A piece of a word. -/
inductive Piece
  /-- Text as it stands. -/
  | literal (text : List Char)
  /-- A positional parameter. -/
  | parameter (n : Nat) (isQuoted : Bool)
  /-- The length of a positional parameter, in bytes. -/
  | lengthOf (n : Nat)
  /-- The number of parameters. -/
  | count
  /-- The status of the last command. -/
  | status
  /-- An arithmetic expression. -/
  | arithmetic (text : List Char)
  deriving Repr

/-- A word: its pieces, and whether it was quoted, so that it stands even if it is empty. -/
structure Word where
  pieces : List Piece
  isQuoted : Bool := false
  deriving Repr

/-- What joins a command to the one before it. -/
inductive Joint
  /-- It runs in any case. -/
  | always
  /-- It runs if the status is zero. -/
  | onSuccess
  /-- It runs if the status is not zero. -/
  | onFailure
  deriving Repr, DecidableEq

/-- A command with what joins it to the one before. -/
structure Command where
  joint : Joint
  words : List Word
  deriving Repr

/-- A parameter or another expansion behind the dollar sign, and the rest. -/
def readDollar (isQuoted : Bool) : List Char → Piece × List Char
  | '#' :: rest => (.count, rest)
  | '?' :: rest => (.status, rest)
  | '(' :: '(' :: rest =>
    let inner := rest.takeWhile (· ≠ ')')
    -- Parentheses inside the expression end at the last pair of them.
    match (rest.dropWhile (· ≠ ')')) with
    | ')' :: ')' :: rest => (.arithmetic inner, rest)
    | other => (.arithmetic inner, other)
  | '\x7b' :: rest =>
    let inner := rest.takeWhile (· ≠ '\x7d')
    let rest := (rest.dropWhile (· ≠ '\x7d')).drop 1
    match inner with
    | '#' :: digits => (.lengthOf (decimalNat digits), rest)
    | digits => (.parameter (decimalNat digits) isQuoted, rest)
  | c :: rest =>
    if isDecimal c then (.parameter (decimalValue c) isQuoted, rest)
    else (.literal ['$'], c :: rest)
  | [] => (.literal ['$'], [])

/-- The pieces between double quotes, and what follows them. -/
def readQuoted : Nat → List Char → List Piece × List Char
  | 0, rest => ([], rest)
  | _, [] => ([], [])
  | fuel + 1, c :: rest =>
    if c = '"' then ([], rest)
    else if c = '\\' then
      match rest with
      | d :: rest =>
        let (pieces, rest) := readQuoted fuel rest
        let text := if d = '"' ∨ d = '\\' ∨ d = '$' ∨ d = '\x60' then [d] else ['\\', d]
        (.literal text :: pieces, rest)
      | [] => ([.literal ['\\']], [])
    else if c = '$' then
      let (piece, rest) := readDollar true rest
      let (pieces, rest) := readQuoted fuel rest
      (piece :: pieces, rest)
    else
      let (pieces, rest) := readQuoted fuel rest
      (.literal [c] :: pieces, rest)

/-- A word up to a blank or an operator, and the rest. -/
def readWord : Nat → List Char → Word × List Char
  | 0, rest => (⟨[], false⟩, rest)
  | _, [] => (⟨[], false⟩, [])
  | fuel + 1, c :: rest =>
    if c = ' ' ∨ c = '\t' ∨ c = '\n' ∨ c = ';' ∨ c = '&' ∨ c = '|' then (⟨[], false⟩, c :: rest)
    else if c = '"' then
      let (pieces, rest) := readQuoted (rest.length + 1) rest
      let (word, rest) := readWord fuel rest
      (⟨pieces ++ word.pieces, true⟩, rest)
    else if c = '\x27' then
      let text := rest.takeWhile (· ≠ '\x27')
      let (word, rest) := readWord fuel ((rest.dropWhile (· ≠ '\x27')).drop 1)
      (⟨.literal text :: word.pieces, true⟩, rest)
    else if c = '\\' then
      match rest with
      | d :: rest =>
        let (word, rest) := readWord fuel rest
        (⟨.literal [d] :: word.pieces, true⟩, rest)
      | [] => (⟨[.literal ['\\']], false⟩, [])
    else if c = '$' then
      let (piece, rest) := readDollar false rest
      let (word, rest) := readWord fuel rest
      (⟨piece :: word.pieces, word.isQuoted⟩, rest)
    else
      let (word, rest) := readWord fuel rest
      (⟨.literal [c] :: word.pieces, word.isQuoted⟩, rest)

/-- The words of a command up to an operator, and the rest. -/
def readWords : Nat → List Char → List Word × List Char
  | 0, rest => ([], rest)
  | fuel + 1, cs =>
    match cs.dropWhile fun c => c = ' ' || c = '\t' with
    | [] => ([], [])
    | c :: rest =>
      if c = ';' ∨ c = '\n' ∨ c = '&' ∨ c = '|' then ([], c :: rest)
      else if c = '#' then ([], rest.dropWhile (· ≠ '\n'))
      else
        let (word, rest) := readWord (rest.length + 2) (c :: rest)
        let (words, rest) := readWords fuel rest
        (word :: words, rest)

/-- The commands of a script. -/
def readScript : Nat → Joint → List Char → List Command
  | 0, _, _ => []
  | fuel + 1, joint, cs =>
    let (words, rest) := readWords (cs.length + 1) cs
    let more := match rest with
      | [] => []
      | '&' :: '&' :: rest => readScript fuel .onSuccess rest
      | '|' :: '|' :: rest => readScript fuel .onFailure rest
      | _ :: rest => readScript fuel .always rest
    if words.isEmpty then more else ⟨joint, words⟩ :: more

/-! ## Arithmetic -/

/-- The operators, from the one that binds loosest to the ones that bind tightest. -/
def operators : List (List (List Char × (Int → Int → Int))) :=
  let bits (f : Nat → Nat → Nat) (a b : Int) : Int := f a.toNat b.toNat
  [ [(['|'], bits Nat.lor)], [(['^'], bits Nat.xor)], [(['&'], bits Nat.land)],
    [ (['<', '<'], bits Nat.shiftLeft), (['>', '>'], bits Nat.shiftRight) ],
    [(['+'], (· + ·)), (['-'], (· - ·))],
    [(['*'], (· * ·)), (['/'], Int.tdiv), (['%'], Int.tmod)] ]

/-- A number in an expression. -/
def readOperand (cs : List Char) : Int × List Char :=
  let cs := cs.dropWhile (· = ' ')
  ((decimalNat (cs.takeWhile isDecimal) : Nat), cs.dropWhile isDecimal)

/-- The value at the start of an expression whose operators are those of the given levels. -/
def evaluateLevels : List (List (List Char × (Int → Int → Int))) → List Char → Int × List Char
  | [], cs => readOperand cs
  | level :: tighter, cs =>
    let (first, rest) := evaluateLevels tighter cs
    more tighter level rest.length first rest
where
  /-- Further operands of the same level. -/
  more (tighter : List (List (List Char × (Int → Int → Int))))
      (level : List (List Char × (Int → Int → Int))) :
      Nat → Int → List Char → Int × List Char
    | 0, value, rest => (value, rest)
    | fuel + 1, value, rest =>
      let rest := rest.dropWhile (· = ' ')
      match level.find? fun operator => operator.1.isPrefixOf rest with
      | some (symbol, apply) =>
        let (operand, rest) := evaluateLevels tighter (rest.drop symbol.length)
        more tighter level fuel (apply value operand) rest
      | none => (value, rest)

/-- The value of an expression. -/
def evaluate (cs : List Char) : Int :=
  (evaluateLevels operators cs).1

/-! ## Running -/

/-- What a script has come to: how long it ran, in milliseconds, and its status. -/
structure Progress where
  elapsed : Nat := 0
  status : Nat := 0
  deriving Repr, DecidableEq

/-- The parameters of a script; the first one is the name it runs under. -/
abbrev Parameters := List String

/-- The text of a piece. -/
def Piece.text (parameters : Parameters) (status : Nat) : Piece → List Char
  | literal text => text
  | parameter n _ => (parameters.getD n "").toList
  | lengthOf n => (toString (byteLength (parameters.getD n ""))).toList
  | count => (toString (parameters.length - 1)).toList
  | Piece.status => (toString status).toList
  | arithmetic text => (toString (evaluate text)).toList

/-- The fields that a word gives: one, unless a parameter outside quotes splits it. -/
def Word.fields (parameters : Parameters) (status : Nat) (word : Word) : List (List Char) :=
  let splits := word.pieces.any fun
    | .parameter _ isQuoted => !isQuoted
    | _ => false
  let text := word.pieces.flatMap (Piece.text parameters status)
  let isBlank (c : Char) : Bool := c = ' ' || c = '\t' || c = '\n'
  if splits && !word.isQuoted then (text.splitOnP isBlank).filter (!·.isEmpty)
  else if text.isEmpty && !word.isQuoted then []
  else [text]

/-- A number of seconds with an optional fraction, in milliseconds. -/
def milliseconds? (cs : List Char) : Option Nat :=
  let whole := cs.takeWhile isDecimal
  let rest := cs.dropWhile isDecimal
  match rest with
  | [] => if whole.isEmpty then none else some (decimalNat whole * 1000)
  | '.' :: fraction =>
    if fraction.all isDecimal ∧ ¬ (whole.isEmpty ∧ fraction.isEmpty) then
      let thousandths := (fraction ++ ['0', '0', '0']).take 3
      some (decimalNat whole * 1000 + decimalNat thousandths)
    else none
  | _ => none

/-- The status of a comparison. -/
def compare (operands : List (List Char)) : Nat :=
  match operands with
  | [] => 1
  | [a] => if a.isEmpty then 1 else 0
  | [['-', 'z'], a] => if a.isEmpty then 0 else 1
  | [['-', 'n'], a] => if a.isEmpty then 1 else 0
  | [a, ['='], b] => if a = b then 0 else 1
  | [a, ['!', '='], b] => if a = b then 1 else 0
  | [a, ['-', 'e', 'q'], b] => if decimalNat a = decimalNat b then 0 else 1
  | [a, ['-', 'n', 'e'], b] => if decimalNat a = decimalNat b then 1 else 0
  | [a, ['-', 'l', 't'], b] => if decimalNat a < decimalNat b then 0 else 1
  | [a, ['-', 'g', 't'], b] => if decimalNat b < decimalNat a then 0 else 1
  | _ => 2

/-- The words of a command that ends the script, and the status it asks for. -/
def exitStatus (status : Nat) : List (List Char) → Nat
  | [] => status
  | digits :: _ => if digits.all isDecimal then decimalNat digits % 256 else 2

/-- How long a pause lasts, or the status of one that is refused. -/
def pause (operands : List (List Char)) : Progress :=
  match operands.mapM milliseconds? with
  | some (first :: others) => ⟨others.foldl (· + ·) first, 0⟩
  | _ => ⟨0, 1⟩

/-- A command that does not end the script. -/
def perform (name : List Char) (operands : List (List Char)) : Progress :=
  match String.ofList name with
  | "true" | ":" | "echo" | "printf" => ⟨0, 0⟩
  | "false" => ⟨0, 1⟩
  | "cat" => ⟨0, if operands.isEmpty then 0 else 1⟩
  | "test" => ⟨0, compare operands⟩
  | "[" => ⟨0, if operands.getLast? = some [']'] then compare operands.dropLast else 2⟩
  | "sleep" => pause operands
  | _ => ⟨0, 127⟩

/-- What a command comes to after what was before it. -/
def Progress.andThen (done outcome : Progress) : Progress :=
  ⟨done.elapsed + outcome.elapsed, outcome.status⟩

/-- The commands run one after the other. The script ends with `exit`, and with a command that takes
its place. -/
def runCommands (parameters : Parameters) : List Command → Progress → Progress
  | [], done => done
  | command :: rest, done =>
    let runs := match command.joint with
      | .always => true
      | .onSuccess => done.status = 0
      | .onFailure => done.status ≠ 0
    if runs then
      match command.words.flatMap (Word.fields parameters done.status) with
      | [] => runCommands parameters rest { done with status := 0 }
      | name :: operands =>
        match String.ofList name, operands with
        | "exit", operands => { done with status := exitStatus done.status operands }
        | "exec", name :: operands => done.andThen (perform name operands)
        | _, operands => runCommands parameters rest (done.andThen (perform name operands))
    else runCommands parameters rest done

/-- What a script comes to. -/
def run (script : String) (parameters : Parameters) : Progress :=
  let cs := script.toList
  runCommands parameters (readScript (cs.length + 1) .always cs) {}

end Jukebox.Host.Shell
