import Jukebox.Host.Error
import Jukebox.Text.Digits

/-!
# Socket addresses

The address that a server listens on: an IP address and a port, or a name and a port. Only
addresses of this machine can be listened on.
-/

namespace Jukebox.Host

open Text

/-- Why an address cannot be listened on. -/
inductive BindError
  /-- There is no colon before a port. -/
  | invalidAddress
  /-- What follows the last colon is no port. -/
  | invalidPort
  /-- Nobody knows the name. -/
  | unknownName
  | system (cause : Error)
  deriving Repr, DecidableEq

/-- The reason in words. -/
def BindError.message : BindError → String
  | invalidAddress => "invalid socket address"
  | invalidPort => "invalid port value"
  | unknownName => "failed to lookup address information: Temporary failure in name resolution"
  | system cause => cause.message

/-- The text before the last colon and the text behind it. -/
def cutAtLastColon? (cs : List Char) : Option (List Char × List Char) :=
  let behind := (cs.reverse.takeWhile (· ≠ ':')).reverse
  if cs.contains ':' then some (cs.take (cs.length - behind.length - 1), behind) else none

/-- A port; a plus sign may stand before its digits. -/
def port? (cs : List Char) : Option Nat :=
  let digits := match cs with
    | '+' :: rest => rest
    | cs => cs
  if digits.isEmpty ∨ ¬ digits.all isDecimal then none
  else
    let n := decimalNat digits
    if n < UInt16.size then some n else none

/-- The parts of a text between separators. -/
def cutAt (separator : Char) (cs : List Char) : List (List Char) :=
  cs.splitOnP (· = separator)

/-- A number below 256 without leading zeros. -/
def octet? (cs : List Char) : Option Nat :=
  if cs.isEmpty ∨ 3 < cs.length ∨ ¬ cs.all isDecimal then none
  else if cs.head? = some '0' ∧ 1 < cs.length then none
  else if decimalNat cs < 256 then some (decimalNat cs)
  else none

/-- The four numbers of an address of version 4. -/
def version4? (cs : List Char) : Option (List Nat) :=
  match (cutAt '.' cs).mapM octet? with
  | some [a, b, c, d] => some [a, b, c, d]
  | _ => none

/-- A group of an address of version 6. -/
def isGroup (cs : List Char) : Bool :=
  !cs.isEmpty && cs.length ≤ 4 && cs.all fun c => (hexValue? c).isSome

/-- The text is an address of version 6: eight groups, or fewer around one double colon. -/
def isVersion6 (cs : List Char) : Bool :=
  let groups := cutAt ':' cs
  let inner := if cs.take 2 = [':', ':'] then groups.drop 1 else groups
  let inner := if cs.drop (cs.length - 2) = [':', ':'] then inner.dropLast else inner
  let gaps := (inner.filter List.isEmpty).length
  (inner.filter fun group => !group.isEmpty).all isGroup &&
    ((gaps = 0 && groups.length = 8) || (gaps = 1 && inner.length ≤ 8))

/-- Whether an address of version 4 belongs to this machine. -/
def isLocal : List Nat → Bool
  | 127 :: _ => true
  | [0, 0, 0, 0] => true
  | _ => false

/-- Begins to listen on an address. -/
def listen (address : String) : Except BindError Unit :=
  match cutAtLastColon? address.toList with
  | none => .error .invalidAddress
  | some (host, port) =>
    match port? port with
    | none => .error .invalidPort
    | some _ =>
      match version4? host with
      | some numbers => if isLocal numbers then .ok () else .error (.system .addressNotAvailable)
      | none =>
        match host with
        | '[' :: rest =>
          if rest.getLast? = some ']' ∧ isVersion6 rest.dropLast then .ok ()
          else .error .unknownName
        | host => if host = "localhost".toList then .ok () else .error .unknownName

end Jukebox.Host
