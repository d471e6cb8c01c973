/-!
# Failures of the operating system

What the operating system says when it cannot open a file, start a program or connect.
-/

namespace Jukebox.Host

/-- A failure of the operating system. -/
inductive Error
  | noSuchFile
  | permissionDenied
  | notADirectory
  | isADirectory
  | nameTooLong
  | networkUnreachable
  | addressInUse
  | addressNotAvailable
  deriving Repr, DecidableEq

/-- The words and the number of a failure. -/
def Error.describe : Error → String × Nat
  | noSuchFile => ("No such file or directory", 2)
  | permissionDenied => ("Permission denied", 13)
  | notADirectory => ("Not a directory", 20)
  | isADirectory => ("Is a directory", 21)
  | nameTooLong => ("File name too long", 36)
  | addressInUse => ("Address already in use", 98)
  | addressNotAvailable => ("Cannot assign requested address", 99)
  | networkUnreachable => ("Network is unreachable", 101)

/-- All failures. -/
def Error.all : List Error :=
  [ .noSuchFile, .permissionDenied, .notADirectory, .isADirectory, .nameTooLong, .addressInUse,
    .addressNotAvailable, .networkUnreachable ]

/-- The failure with a number. -/
def Error.ofCode? (code : Nat) : Option Error := all.find? fun e => e.describe.2 = code

theorem Error.ofCode?_describe (e : Error) : ofCode? e.describe.2 = some e := by
  cases e <;> rfl

/-- The message for a failure. -/
def Error.message (e : Error) : String :=
  s!"{e.describe.1} (os error {e.describe.2})"

end Jukebox.Host
