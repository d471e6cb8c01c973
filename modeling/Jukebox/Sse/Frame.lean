import Jukebox.Notice.Json

/-!
# Server-sent events, written

A frame is a line with the name of the event, a line with its data, and an empty line. A comment
keeps the connection alive while there is nothing to say.
-/

namespace Jukebox.Sse

/-- A frame: the name of an event and its data. -/
structure Frame where
  name : String
  data : String
  deriving Repr, DecidableEq

/-- The field names before the values. -/
def nameLabel : List Char := ['e', 'v', 'e', 'n', 't', ':', ' ']

/-- The field name before the data. -/
def dataLabel : List Char := ['d', 'a', 't', 'a', ':', ' ']

/-- A text that fits on one line. -/
def isLine (cs : List Char) : Bool :=
  cs.all fun c => c ≠ '\n' && c ≠ '\r'

/-- The characters of a frame, whose name and data each fit on one line. -/
def Frame.chars (f : Frame) : List Char :=
  nameLabel ++ f.name.toList ++ '\n' :: (dataLabel ++ f.data.toList ++ ['\n', '\n'])

/-- The line of a field; `none` for a value that does not fit on one. -/
def fieldLine? (label value : List Char) : Option (List Char) :=
  if isLine value then some (label ++ value ++ ['\n']) else none

/-- A frame put together field by field: a line for the name, a line for each line of the data, and
an empty line. Only line feeds break the data into lines, so there is no frame for data with a
carriage return, nor for a name with a line end of either kind. -/
def Frame.build? (f : Frame) : Option (List Char) := do
  let name ← fieldLine? nameLabel f.name.toList
  let data ← (f.data.toList.splitOn '\n').mapM (fieldLine? dataLabel)
  return name ++ data.flatten ++ ['\n']

/-- The text of a frame. -/
def Frame.render (f : Frame) : String :=
  String.ofList f.chars

/-- The frame of an event. -/
def Frame.ofEvent (e : Event) : Frame where
  name := e.name
  data := e.render

/-- The comment that keeps a connection alive. -/
def keepAlive : String := ": keep-alive\n\n"

end Jukebox.Sse
