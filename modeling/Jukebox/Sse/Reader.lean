import Jukebox.Sse.Frame

/-!
# Server-sent events, read

How a client reads a stream. Lines end with a line feed, a carriage return, or both. A line that
starts with a colon is a comment. Any other line is a field, whose value stands behind the first
colon and one space after it. An empty line ends an event; events without data are passed over, and
what follows the last empty line is not complete yet.
-/

namespace Jukebox.Sse

/-- The lines of a stream that are complete. -/
def lines : List Char → List (List Char)
  | cs => go [] cs
where
  /-- The lines, of which the first has begun with `line` in reverse. -/
  go (line : List Char) : List Char → List (List Char)
    | [] => []
    | '\r' :: '\n' :: rest => line.reverse :: go [] rest
    | c :: rest =>
      if c = '\n' ∨ c = '\r' then line.reverse :: go [] rest else go (c :: line) rest

/-- The name of a field and its value. -/
def field (line : List Char) : List Char × List Char :=
  let name := line.takeWhile (· ≠ ':')
  let value := (line.dropWhile (· ≠ ':')).drop 1
  (name, match value with
    | ' ' :: rest => rest
    | value => value)

/-- An event as far as it has been read: its name, and the lines of its data. -/
structure Partial where
  name : List Char := []
  data : List (List Char) := []
  deriving Repr, DecidableEq

/-- The lines with line feeds between them. -/
def joinLines : List (List Char) → List Char
  | [] => []
  | [line] => line
  | line :: others => line ++ '\n' :: joinLines others

/-- The frames that lines make up, where `part` has been read of the first. -/
def framesOf : Partial → List (List Char) → List Frame
  | _, [] => []
  | part, line :: rest =>
    match line with
    | [] =>
      if part.data.isEmpty then framesOf {} rest
      else
        ⟨String.ofList part.name, String.ofList (joinLines part.data)⟩ :: framesOf {} rest
    | ':' :: _ => framesOf part rest
    | line =>
      let (name, value) := field line
      if name = ['e', 'v', 'e', 'n', 't'] then framesOf { part with name := value } rest
      else if name = ['d', 'a', 't', 'a'] then
        framesOf { part with data := part.data ++ [value] } rest
      else framesOf part rest

/-- The frames of a stream. -/
def read (stream : List Char) : List Frame :=
  framesOf {} (lines stream)

end Jukebox.Sse
