import Notices.Number.Shortest
import Notices.Text.Class

/-!
# Numerals in a configuration

An environment and a query string hold numbers as text.

* `readInt` reads a whole number.  White space around it is dropped, a sign,
  zeros at the front and a fraction of zeros only are allowed, and single
  underscores may group the digits.  The length of a numeral is bounded.
* `readReal?` reads a number that may have a fraction and an exponent, or a
  name of infinity or of no number.  Underscores may group its characters if no
  white space is around it.
-/

namespace Notices.Numeral

/-- Why a text is not read as a whole number. -/
inductive Problem where
  | spelling
  | tooLong
  deriving DecidableEq, Repr

/-- The most characters of a whole number, its minus sign included. -/
def longest : Nat := 4300

/-- Removes grouping underscores.  One at an end or beside another one
stays, and so is no digit. -/
def ungroup (s : List Char) : List Char :=
  let paired :=
    (s.zip (s.drop 1)).any fun pair => pair.1 == '_' && pair.2 == '_'
  if s.head? == some '_' || s.getLast? == some '_' || paired then s
    else s.filter (· != '_')

/-- A sign and what follows it; no sign is a plus. -/
def readSign : List Char → Bool × List Char
  | '-' :: rest => (true, rest)
  | '+' :: rest => (false, rest)
  | s => (false, s)

/-- The value of a run of decimal digits. -/
def value (digits : List Char) : Nat :=
  digits.foldl (fun n c => 10 * n + (c.toNat - '0'.toNat)) 0

/-- The value of a non-empty run of ASCII digits. -/
def readNat? (s : List Char) : Option Nat :=
  if !s.isEmpty && s.all Char.isDigit then some (value s) else none

/-- The text before the point, if only zeros follow the point, and at least
one. -/
def dropZeroFraction (s : List Char) : List Char :=
  let zeros := (s.dropWhile (· != '.')).drop 1
  if !zeros.isEmpty && zeros.all (· == '0') then s.takeWhile (· != '.') else s

/-- The text behind zeros at its front, which underscores may group.  A
zero before a point stays, and so does the last character of a text
that has nothing else. -/
def behindZeros? (last : Char) : List Char → Option (List Char)
  | [] => some [last]
  | c :: rest =>
    if c == '0' || c == '_' then behindZeros? c rest
    else if c == '.' then some (last :: c :: rest)
    else if c.isDigit || c == '-' then some (c :: rest)
    else none

/-- Removes zeros from the front of a text that begins with a digit. -/
def dropLeadingZeros? : List Char → Option (List Char)
  | [] => none
  | c :: rest =>
    if c == '0' then behindZeros? c rest
      else if c.isDigit then some (c :: rest) else none

/-- Reads a whole number in its shortest spelling: no plus sign, and
no zero at the front. -/
def readPlain (s : List Char) : Except Problem Int :=
  let negative := s.head? == some '-'
  let body := if negative then s.drop 1 else s
  let digits := body.takeWhile Char.isDigit
  let n : Int := value digits
  if digits.isEmpty then .error .spelling
  else if digits.head? == some '0' then
    if body == ['0'] then .ok 0 else .error .spelling
  else if longest < s.length - body.length + digits.length then .error .tooLong
  else if digits == body then .ok (if negative then -n else n)
  else .error .spelling

/-- Brings a numeral into its shortest spelling, unless it is none. -/
def simplify? (s : List Char) : Option (List Char) :=
  let simplifyBody (body : List Char) : Option (List Char) :=
    (dropLeadingZeros? body).map fun rest => ungroup (dropZeroFraction rest)
  match s with
  | '+' :: body => simplifyBody body
  | '-' :: body => (simplifyBody body).map ('-' :: ·)
  | body => simplifyBody body

/-- Reads an integer, if possible as it stands. -/
def readInt (s : List Char) : Except Problem Int :=
  let s := Text.trimBy Text.isWhiteSpace s
  match readPlain s with
  | .error .spelling =>
    match simplify? s with
    | some simple => readPlain simple
    | none => .error .spelling
  | result => result

/-- Reads an exponent behind its mark; no text is the exponent zero. -/
def readExponent? : List Char → Option Int
  | [] => some 0
  | c :: rest =>
    if c == 'e' || c == 'E' then
      let (negative, digits) := readSign rest
      (readNat? digits).map fun n => if negative then -n else n
    else none

/-- Reads a number without sign: digits with a point among them or
not, and an exponent. -/
def readUnsigned? (negative : Bool) (s : List Char) : Option Binary64 :=
  let whole := s.takeWhile Char.isDigit
  let rest := s.dropWhile Char.isDigit
  let (fraction, rest) :=
    match rest with
    | '.' :: after =>
        (after.takeWhile Char.isDigit, after.dropWhile Char.isDigit)
    | _ => ([], rest)
  if whole.isEmpty && fraction.isEmpty then none
  else (readExponent? rest).map fun e =>
    Binary64.ofDecimal negative (value (whole ++ fraction))
      (e - fraction.length)

/-- Reads a number with its sign, or one of the names of infinity and of no
number. -/
def readSigned? (s : List Char) : Option Binary64 :=
  let (negative, body) := readSign s
  let name := String.ofList (body.map Char.toLower)
  if name == "inf" || name == "infinity" then some (.infinite negative)
  else if name == "nan" then some .nan
  else readUnsigned? negative body

/-- Reads a number that may have a fraction.  White space around it does not
count, unless underscores group its characters. -/
def readReal? (s : List Char) : Option Binary64 :=
  (readSigned? (Text.trimBy Text.isWhiteSpace s)).or (readSigned? (ungroup s))

end Notices.Numeral
