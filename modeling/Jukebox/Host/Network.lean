import Jukebox.Host.Address

/-!
# Networks

What comes of connecting to a port of a host. A machine without a network knows its own name and
can read addresses written in numbers, but reaches nobody.
-/

namespace Jukebox.Host

/-- Why a port cannot be connected to. -/
inductive ConnectError
  /-- Nobody knows the name. -/
  | unknownName
  | system (cause : Error)
  deriving Repr, DecidableEq

/-- The reason in words. -/
def ConnectError.message : ConnectError → String
  | unknownName => BindError.unknownName.message
  | system cause => cause.message

/-- What comes of connecting to a port of a host. -/
abbrev Network := String → Nat → Except ConnectError Unit

/-- The host is this machine, or its address is written in numbers. -/
def isNumericOrLocal (host : List Char) : Bool :=
  host = "localhost".toList || (version4? host).isSome ||
    match host with
    | '[' :: rest => rest.getLast? = some ']' && isVersion6 rest.dropLast
    | _ => false

/-- The network of a machine that is not connected to any. -/
def Network.none : Network := fun host _ =>
  if isNumericOrLocal host.toList then .error (.system .networkUnreachable)
  else .error .unknownName

end Jukebox.Host
