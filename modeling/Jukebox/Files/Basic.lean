import Jukebox.Files.Path
import Jukebox.Host.Error

/-!
# Files

What the player asks of a file system: whether a path leads somewhere, and the bytes of a file. Any
two functions will do; nothing ties one to the other, as a file may come and go between two
questions.
-/

namespace Jukebox

/-- Why a file cannot be read as a text. -/
inductive FileError
  /-- The path holds the character that ends texts inside the system. -/
  | nulByte
  /-- The bytes are not UTF-8. -/
  | notText
  | system (cause : Host.Error)
  deriving Repr, DecidableEq

/-- The reason in words. -/
def FileError.message : FileError → String
  | nulByte => "file name contained an unexpected NUL byte"
  | notText => "stream did not contain valid UTF-8"
  | system cause => cause.message

/-- The failure means that the path leads nowhere. -/
def FileError.isAbsence : FileError → Bool
  | nulByte | system .noSuchFile | system .notADirectory | system .nameTooLong => true
  | _ => false

/-- A file system. -/
structure Files where
  /-- The path leads to a file or a directory. -/
  present : Path → Bool
  /-- The bytes of the file at a path. -/
  bytes : Path → Except FileError (List UInt8)

namespace Files

/-- The text of the file at a path. -/
def text (files : Files) (path : Path) : Except FileError String :=
  match files.bytes path with
  | .error e => .error e
  | .ok bytes =>
    match Text.ofBytes? bytes with
    | some text => .ok text
    | none => .error .notText

/-- The file system that a look at some paths has shown. Other paths lead nowhere. -/
def ofSeen (seen : List (Path × Except FileError (List UInt8))) : Files where
  present path :=
    match seen.lookup path with
    | some (.error e) => !e.isAbsence
    | some (.ok _) => true
    | none => false
  bytes path := (seen.lookup path).getD (.error (.system .noSuchFile))

end Files

end Jukebox
