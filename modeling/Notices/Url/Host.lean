import Notices.Url.Name
import Notices.Url.Percent

/-!
# Hosts

The host of an address is a number with four parts, a number in brackets
with eight parts, or a name.

* `Host.encode?` checks a host and brings it into its usual form: numbers stay
  as they are, and a name is in lower case and in ASCII.
-/

namespace Notices.Url

/-- Why a host is refused. -/
inductive HostProblem where
  | badFourPartNumber
  | badEightPartNumber
  | badName
  deriving DecidableEq, Repr

namespace Host

/-! ## Numbers -/

/-- The places that a text may be at in four runs of digits with any
character between two of them: place `2 * k` is before the run `k`, and
`2 * k + 1` is in it. -/
def advance (places : List Nat) (c : Char) : List Nat :=
  let next := places.flatMap fun place =>
    if place % 2 = 0 then (if c.isDigit then [place + 1] else [])
    else (if c.isDigit then [place] else []) ++
      (if place < 7 then [place + 1] else [])
  next.eraseDups

/-- Whether a text is four runs of digits with any character between two of
them. -/
def looksNumeric (s : List Char) : Bool := (s.foldl advance [0]).contains 7

/-- Whether a text is a number below 256, in at most three digits and
without zeros at the front. -/
def isPartOfFour (s : List Char) : Bool :=
  !s.isEmpty && s.length ≤ 3 && s.all Char.isDigit &&
    (s == ['0'] || s.head? != some '0') &&
    s.foldl (fun n c => 10 * n + (c.toNat - '0'.toNat)) 0 < 256

/-- Whether a text is a number with four parts. -/
def isFourPartNumber (s : List Char) : Bool :=
  let parts := Text.parts '.' s
  parts.length == 4 && parts.all isPartOfFour

/-- Whether a text is a hexadecimal number of at most four digits. -/
def isPartOfEight (s : List Char) : Bool :=
  !s.isEmpty && s.length ≤ 4 && s.all fun c => (hexDigit? c).isSome

/-- Parts in which one empty part stands for nothing at all. -/
def unlessEmpty (parts : List (List Char)) : List (List Char) :=
  if parts == [[]] then [] else parts

/-- Whether parts are those of a number with eight parts.  An empty part inside
stands for the parts that are missing, of which there is at least one; an empty
part at an end goes with it. -/
def areEightParts (parts : List (List Char)) : Bool :=
  let inner := (parts.drop 1).dropLast
  if inner.contains [] then
    let front := 1 + (inner.takeWhile (!·.isEmpty)).length
    let high := unlessEmpty (parts.take front)
    let low := unlessEmpty (parts.drop (front + 1))
    high.length + low.length < 8 && (high ++ low).all isPartOfEight
  else parts.length == 8 && parts.all isPartOfEight

/-- The parts of a number between its colons.  A number with four parts at the
end stands for two of them. -/
def eightParts (s : List Char) : List (List Char) :=
  let parts := Text.parts ':' s
  match parts.getLast? with
  | some last => if isFourPartNumber last then parts.dropLast ++ [['0'], ['0']]
      else parts
  | none => parts

/-- Whether a text is a number with eight parts, behind which a percent
sign may name a scope. -/
def isEightPartNumber (s : List Char) : Bool :=
  let number := s.takeWhile (· != '%')
  let scope := s.dropWhile (· != '%')
  !s.contains '/' && areEightParts (eightParts number) &&
    (scope.isEmpty || (scope.length != 1 && !(scope.drop 1).contains '%'))

/-! ## Hosts -/

/-- The host in its usual form: a number without its brackets, or a name in
lower case and in ASCII. -/
def encode? (s : List Char) : Except HostProblem (List Char) :=
  let inside := (s.drop 1).dropLast
  if looksNumeric s then
    if isFourPartNumber s then .ok s else .error .badFourPartNumber
  else if s.head? == some '[' && s.getLast? == some ']' then
    if isEightPartNumber inside then .ok inside else .error .badEightPartNumber
  else if s.all fun c => c.toNat < 128 then
    .ok (encodeBy isHostChar (s.map Char.toLower))
  else
    match Name.encode? s with
    | some name => .ok name
    | none => .error .badName

end Host

end Notices.Url
