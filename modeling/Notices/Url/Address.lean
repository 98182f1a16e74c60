import Notices.Number.Shortest
import Notices.Text.Class
import Notices.Text.DecimalDigit
import Notices.Url.Host

/-!
# Addresses of a service

An address has a scheme, a user, a host, a port, a path, a query and a fragment,
any of which may be missing.

* `Address.parse` takes an address apart and brings each part into its usual
  form: the scheme and the host are in lower case, the port that the scheme has
  by default is left out, the path has no dot segments, and what a part cannot
  hold is percent encoded.
* `Address.text` puts the parts together again.
* `Address.target` is where a request for an address goes: without a scheme and
  a host only the path and the query count.
-/

namespace Notices.Url

/-- Why an address is refused. -/
inductive AddressProblem where
  | tooLong
  | control (c : Char) (position : Nat)
  | host (problem : HostProblem) (text : List Char)
  | port (text : List Char)
  | pathAfterSlash
  | pathAfterColon
  deriving DecidableEq, Repr

/-- The message for a problem. -/
def AddressProblem.message (p : AddressProblem) : String :=
  let shown (s : List Char) := String.ofList (Text.quoted s)
  match p with
  | .tooLong => "URL too long"
  | .control c position =>
    s!"Invalid non-printable ASCII character in URL, {shown [c]} at position {position}."
  | .host .badFourPartNumber s => s!"Invalid IPv4 address: {shown s}"
  | .host .badEightPartNumber s => s!"Invalid IPv6 address: {shown s}"
  | .host .badName s => s!"Invalid IDNA hostname: {shown s}"
  | .port s => s!"Invalid port: {shown s}"
  | .pathAfterSlash => "Relative URLs cannot have a path starting with '//'"
  | .pathAfterColon => "Relative URLs cannot have a path starting with ':'"

/-- An address. -/
structure Address where
  scheme : List Char
  user : List Char
  host : List Char
  port : Option Int
  path : List Char
  query : Option (List Char)
  fragment : Option (List Char)
  deriving DecidableEq, Repr

namespace Address

/-- The most characters of an address. -/
def longest : Nat := 65536

/-- The ASCII control characters. -/
def isControl (c : Char) : Bool := c.toNat < 0x20 || c.toNat == 0x7F

/-! ## Taking apart -/

/-- The characters of a scheme behind its first letter. -/
def isSchemeChar (c : Char) : Bool :=
  c.isAlphanum || c == '+' || c == '.' || c == '-'

/-- The scheme of an address and what follows its colon. -/
def splitScheme (s : List Char) : List Char × List Char :=
  let scheme :=
    if s.head?.any Char.isAlpha then s.takeWhile isSchemeChar else []
  match s.drop scheme.length with
  | ':' :: rest => (scheme, rest)
  | _ => ([], s)

/-- The user with the host and the port, if two slashes announce
them, and what follows. -/
def splitAuthority : List Char → List Char × List Char
  | '/' :: '/' :: rest =>
    let isOutside (c : Char) : Bool := c == '/' || c == '?' || c == '#'
    (rest.takeWhile (!isOutside ·), rest.dropWhile (!isOutside ·))
  | s => ([], s)

/-- The text before the last occurrence of a character, if there is one,
and the text behind it. -/
def splitLast (mark : Char) (s : List Char) : Option (List Char) × List Char :=
  if s.contains mark then
    let behind := (s.reverse.takeWhile (· != mark)).reverse
    (some (s.take (s.length - behind.length - 1)), behind)
  else (none, s)

/-- The text of a host and of the port behind its colon. -/
def splitHost (s : List Char) : List Char × List Char :=
  let (host, rest) :=
    match s.head?, splitLast ']' s with
    | some '[', (some inside, rest) => (inside ++ [']'], rest)
    | _, _ => (s.takeWhile (· != ':'), s.dropWhile (· != ':'))
  (host, match rest with
    | ':' :: port => port
    | _ => rest)

/-- The text behind a mark, if a text begins with it. -/
def behind? (mark : Char) : List Char → Option (List Char)
  | c :: rest => if c == mark then some rest else none
  | [] => none

/-! ## Ports -/

/-- The value of decimal digits, between which single underscores may stand. -/
def digitsValue? : Nat → List Char → Option Nat
  | n, [] => some n
  | n, '_' :: rest =>
    match rest with
    | c :: rest => (Text.digitValue? c).bind fun d =>
        digitsValue? (10 * n + d) rest
    | [] => none
  | n, c :: rest => (Text.digitValue? c).bind fun d =>
      digitsValue? (10 * n + d) rest

/-- The most digits of a port. -/
def mostPortDigits : Nat := 4300

/-- The number that a port is: blanks around it, a sign and single underscores
between its digits are allowed, and the digits may be those of any script. -/
def portNumber? (s : List Char) : Option Int :=
  let s := Text.trimBy Text.isBlank s
  let negative := s.head? == some '-'
  let body := if negative || s.head? == some '+' then s.drop 1 else s
  if body.isEmpty || body.head? == some '_' ||
    mostPortDigits < (body.filter (· != '_')).length then none
  else (digitsValue? 0 body).map fun n => if negative then -n else n

/-- The port that a scheme has by default. -/
def defaultPort? (scheme : List Char) : Option Int :=
  match String.ofList scheme with
  | "ftp" => some 21
  | "http" | "ws" => some 80
  | "https" | "wss" => some 443
  | _ => none

/-- The port of an address, unless its scheme, as it is written, has it by
default. -/
def port? (scheme s : List Char) : Except AddressProblem (Option Int) :=
  if s.isEmpty then .ok none
  else
    match portNumber? s with
    | none => .error (.port s)
    | some n => .ok (if defaultPort? scheme = some n then none else some n)

/-! ## Addresses -/

/-- Whether the address has a user, a host or a port. -/
def hasAuthority (a : Address) : Bool :=
  !a.user.isEmpty || !a.host.isEmpty || a.port.isSome

/-- Whether the address says by its scheme and its host where to go. -/
def isAbsolute (a : Address) : Bool := !a.scheme.isEmpty && !a.host.isEmpty

/-- Refuses a path that would be taken for something else when the
address is put together. -/
def checkPath (a : Address) : Except AddressProblem Unit :=
  if !a.scheme.isEmpty || a.hasAuthority then .ok ()
  else if "//".toList.isPrefixOf a.path then .error .pathAfterSlash
  else if a.path.head? == some ':' then .error .pathAfterColon
  else .ok ()

/-- Brings the path, the query and the fragment into their usual form.  A path
that does not stand behind a scheme or a host may have dots. -/
def encodeRest (a : Address) : Address :=
  let path :=
    if !a.scheme.isEmpty || a.hasAuthority then normalizePath a.path else a.path
  { a with
    path := encodeBy isPathChar path
    query := a.query.map (encodeBy isQueryChar)
    fragment := a.fragment.map (encodeBy isFragmentChar) }

/-- Takes an address apart. -/
def parse (s : List Char) : Except AddressProblem Address := do
  if longest < s.length then throw .tooLong
  if let some i := s.findIdx? isControl then throw (.control (s[i]?.getD ' ') i)
  let (scheme, rest) := splitScheme s
  let (authority, rest) := splitAuthority rest
  let (user, place) := splitLast '@' authority
  let (hostText, portText) := splitHost place
  let host ← (Host.encode? hostText).mapError fun problem =>
      .host problem hostText
  let port ← port? scheme portText
  let isQueryMark (c : Char) : Bool := c == '?' || c == '#'
  let behindPath := rest.dropWhile (!isQueryMark ·)
  let address : Address := {
    scheme := scheme.map Char.toLower
    user := encodeBy isUserChar (user.getD [])
    host
    port
    path := rest.takeWhile (!isQueryMark ·)
    query := (behind? '?' behindPath).map (·.takeWhile (· != '#'))
    fragment := behind? '#' (behindPath.dropWhile (· != '#')) }
  address.checkPath
  return address.encodeRest

/-- The text of a port behind its colon. -/
def portText : Option Int → List Char
  | some n => ':' :: intText n
  | none => []

/-- The user, the host and the port.  A number with colons is in brackets. -/
def authority (a : Address) : List Char :=
  (if a.user.isEmpty then [] else a.user ++ ['@']) ++
    (if a.host.contains ':' then '[' :: a.host ++ [']'] else a.host) ++
      portText a.port

/-- A part behind its mark. -/
def marked (mark : Char) : Option (List Char) → List Char
  | some s => mark :: s
  | none => []

/-- The text of an address. -/
def text (a : Address) : List Char :=
  (if a.scheme.isEmpty then [] else a.scheme ++ [':']) ++
    (if a.authority.isEmpty then [] else '/' :: '/' :: a.authority) ++
    a.path ++ marked '?' a.query ++ marked '#' a.fragment

/-- Where a request for an address goes: to the address if it is absolute, and
else to its path and its query at a place that is not known. -/
def target (a : Address) : Address :=
  if a.isAbsolute then a
  else
    { scheme := [], user := [], host := [], port := none
      path := '/' :: a.path.dropWhile (· == '/'), query := a.query,
        fragment := none }

end Address

end Notices.Url
