import Jukebox.Host.Address
import Jukebox.Text.Utf8

/-!
# Endpoints

The address that requests come from: `ws://host:port/path`, or only the host and the port. Reading
one gives the host and the port to connect to, or says what is wrong with the text.

* A text is a path if it starts with a slash; else a scheme in front of `://` if there is one, then
  the authority up to a slash, a question mark or a number sign, then a path. A path needs a scheme.
* The authority may have user information in front of an at sign and a port behind the last colon.
* The schemes `ws` and `wss` have a port of their own; they are known in small letters only.
-/

namespace Jukebox

open Text

/-- What is wrong with the text of an endpoint. -/
inductive EndpointError
  | empty
  | tooLong
  | schemeTooLong
  | invalidCharacter
  | invalidAuthority
  | invalidFormat
  /-- It names no host. -/
  | noHost
  /-- It names no port, and its scheme has none of its own. -/
  | unknownScheme
  deriving Repr, DecidableEq

/-- The reason in words. -/
def EndpointError.message : EndpointError → String
  | empty => "HTTP format error: empty string"
  | tooLong => "HTTP format error: uri too long"
  | schemeTooLong => "HTTP format error: scheme too long"
  | invalidCharacter => "HTTP format error: invalid uri character"
  | invalidAuthority => "HTTP format error: invalid authority"
  | invalidFormat => "HTTP format error: invalid format"
  | noHost => "URL error: No host name in the URL"
  | unknownScheme => "URL error: URL scheme not supported"

/-- A host and a port to connect to. -/
structure Endpoint where
  host : String
  port : Nat
  deriving Repr, DecidableEq

namespace Endpoint

/-! ## Characters -/

/-- A character of a scheme. -/
def isSchemeChar (c : Char) : Bool :=
  c.isAlphanum || ['+', '-', '.', '~'].contains c

/-- The character ends an authority. -/
def endsAuthority (c : Char) : Bool :=
  ['/', '?', '#'].contains c

/-- A character that says nothing about the parts of an authority. -/
def isPlainAuthorityChar (c : Char) : Bool :=
  c.isAlphanum ||
    ['!', '$', '&', '\x27', '(', ')', '*', '+', ',', '-', '.', ';', '=', '_', '~'].contains c

/-- A character of a path in front of a question mark. Beyond ASCII all are. -/
def isPathChar (c : Char) : Bool :=
  0x21 ≤ c.toNat && !(['#', '<', '>', '?', '\x60'].contains c)

/-- A character of the part behind a question mark. Beyond ASCII all are. -/
def isQueryChar (c : Char) : Bool :=
  0x21 ≤ c.toNat && !(['"', '#', '<', '>'].contains c)

/-! ## The authority -/

/-- What has been seen of an authority. -/
structure Seen where
  /-- The colons that may stand in front of a port. -/
  colons : Nat := 0
  /-- A square bracket was opened. -/
  opened : Bool := false
  /-- It was closed. -/
  closed : Bool := false
  /-- There is a percent sign in the host. -/
  percent : Bool := false
  /-- The last character is an at sign. -/
  afterAt : Bool := false
  deriving Repr, DecidableEq

/-- Looks at the next character of an authority. What stands in brackets or in front of an at sign
holds no port, so colons and percent signs there are forgotten. -/
def Seen.next (s : Seen) (c : Char) : Except EndpointError Seen :=
  let s := { s with afterAt := false }
  match c with
  | ':' => if s.colons < 8 then .ok { s with colons := s.colons + 1 } else .error .invalidAuthority
  | '[' => if s.percent ∨ s.opened then .error .invalidAuthority else .ok { s with opened := true }
  | ']' =>
    if s.opened ∧ ¬ s.closed then .ok { s with closed := true, colons := 0, percent := false }
    else .error .invalidAuthority
  | '@' => .ok { s with afterAt := true, colons := 0, percent := false }
  | '%' => .ok { s with percent := true }
  | c => if isPlainAuthorityChar c then .ok s else .error .invalidCharacter

/-- The authority is well formed at its end. -/
def Seen.complete (s : Seen) : Bool :=
  s.opened = s.closed && s.colons ≤ 1 && !s.afterAt && !s.percent

/-- The authority at the start of a text, and the rest. -/
def readAuthority (cs : List Char) : Except EndpointError (List Char × List Char) := do
  let authority := cs.takeWhile (!endsAuthority ·)
  let seen ← authority.foldlM Seen.next {}
  if seen.complete then .ok (authority, cs.drop authority.length) else .error .invalidAuthority

/-! ## The parts of the text -/

/-- The scheme of a text that has one, and what is behind `://`. -/
def cutScheme? (cs : List Char) : Except EndpointError (Option (List Char × List Char)) :=
  let scheme := cs.takeWhile isSchemeChar
  match cs.drop scheme.length with
  | ':' :: '/' :: '/' :: rest =>
    if 64 < scheme.length then .error .schemeTooLong else .ok (some (scheme, rest))
  | _ => .ok none

/-- Checks a path. Behind a number sign anything may stand. -/
def checkPath (cs : List Char) : Except EndpointError Unit :=
  match cs.dropWhile isPathChar with
  | [] => .ok ()
  | '#' :: _ => .ok ()
  | '?' :: query =>
    match query.dropWhile isQueryChar with
    | [] => .ok ()
    | '#' :: _ => .ok ()
    | _ => .error .invalidCharacter
  | _ => .error .invalidCharacter

/-- The scheme, if there is one, and the authority of a text. -/
def cut (cs : List Char) : Except EndpointError (Option (List Char) × List Char) := do
  match ← cutScheme? cs with
  | none =>
    let (authority, rest) ← readAuthority cs
    if rest.isEmpty then .ok (none, authority)
    else if cs.length = 1 then .error .invalidCharacter
    else .error .invalidFormat
  | some (scheme, rest) =>
    let (authority, path) ← readAuthority rest
    if authority.isEmpty then .error .invalidFormat
    else
      checkPath path
      .ok (some scheme, authority)

/-- The port behind the last colon of an authority. What is no port there counts as none. -/
def port? (authority : List Char) : Option Nat :=
  (Host.cutAtLastColon? authority).bind fun (_, digits) => Host.port? digits

/-- The host in an authority: behind the last at sign, and in brackets or up to a colon. -/
def hostIn (authority : List Char) : List Char :=
  let behind := (authority.reverse.takeWhile (· ≠ '@')).reverse
  match behind with
  | '[' :: rest => '[' :: rest.takeWhile (· ≠ ']') ++ [']']
  | behind => behind.takeWhile (· ≠ ':')

/-- The port of a scheme. -/
def schemePort? (scheme : Option (List Char)) : Option Nat :=
  scheme.bind fun scheme => [("wss", 443), ("ws", 80)].lookup (String.ofList scheme)

/-- Reads an endpoint. -/
def read (text : String) : Except EndpointError Endpoint :=
  if 65534 < byteLength text then .error .tooLong
  else
    match text.toList with
    | [] => .error .empty
    | ['*'] => .error .noHost
    | '/' :: rest => do
      checkPath ('/' :: rest)
      .error .noHost
    | cs => do
      let (scheme, authority) ← cut cs
      match port? authority <|> schemePort? scheme with
      | some port => .ok { host := String.ofList (hostIn authority), port }
      | none => .error .unknownScheme

end Endpoint

end Jukebox
