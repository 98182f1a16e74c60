import Notices.Json.Encoding
import Notices.Number.Numeral
import Notices.Value.Basic

/-!
# Reading JSON

`Json.read` reads a text as one JSON value.  A text that is not JSON is refused
with the first problem and its position, which counts characters from zero.  So
is a text in JSON that is beyond the reader: an integer with too many digits, or
lists and objects too deep inside each other.

* An object keeps its fields in the order in which they first appear; of two
  fields of one name the later value is kept.
* A number with a fraction or an exponent is a real number, and any other is an
  integer.
* The names `NaN`, `Infinity` and `-Infinity` are read as numbers.

The readers work on what is left of the text.  Each is given a bound on its
depth, and the length of the text is a bound that suffices, since every step
takes at least one character.
-/

namespace Notices.Json

/-- What is wrong with a text that is not JSON. -/
inductive Problem where
  | value
  | name
  | colon
  | comma
  | extra
  | unterminated
  | control
  | escape
  | codePoint
  deriving DecidableEq, Repr

/-- The words for a problem. -/
def Problem.text : Problem → String
  | .value => "Expecting value"
  | .name => "Expecting property name enclosed in double quotes"
  | .colon => "Expecting ':' delimiter"
  | .comma => "Expecting ',' delimiter"
  | .extra => "Extra data"
  | .unterminated => "Unterminated string starting at"
  | .control => "Invalid control character at"
  | .escape => "Invalid \\escape"
  | .codePoint => "Invalid \\uXXXX escape"

/-- A problem and where in a text it is. -/
structure Fault where
  problem : Problem
  position : Nat
  line : Nat
  column : Nat
  deriving DecidableEq, Repr

/-- The message for a fault: the problem, and its place by line,
column and character. -/
def Fault.message (f : Fault) : String :=
  s!"{f.problem.text}: line {f.line} column {f.column} (char {f.position})"

/-- The fault at a position of a text. -/
def Fault.locate (text : List Char) (problem : Problem) (position : Nat) :
    Fault :=
  let before := text.take position
  { problem, position
    line := before.count '\n' + 1
    column := (before.reverse.takeWhile (· != '\n')).length + 1 }

/-- What can hold further values. -/
inductive Container where
  | array
  | object
  deriving DecidableEq, Repr

/-- Why a text is not read. -/
inductive Refusal where
  | malformed (fault : Fault)
  | tooManyDigits (count : Nat)
  | tooDeep (container : Container)
  | undecodable (fault : EncodingFault)
  deriving DecidableEq, Repr

/-- How deep lists and objects may be inside each other. -/
def deepest : Nat := 950

/-- The message for a refusal. -/
def Refusal.message : Refusal → String
  | .malformed fault => fault.message
  | .tooManyDigits count =>
    s!"Exceeds the limit ({mostDigits} digits) for integer string conversion: value has {count} digits; " ++
      "use sys.set_int_max_str_digits() to increase the limit"
  | .tooDeep .array =>
      "maximum recursion depth exceeded while decoding a JSON array from a unicode string"
  | .tooDeep .object =>
    "maximum recursion depth exceeded while decoding a JSON object from a unicode string"
  | .undecodable fault => fault.message

/-- Where and why reading stopped: a problem with what was left of the text
there, or something beyond the reader. -/
inductive Stop where
  | problem (p : Problem) (rest : List Char)
  | tooManyDigits (count : Nat)
  | tooDeep (container : Container)

/-- The refusal of a text in which reading stopped. -/
def Stop.refusal (text : List Char) : Stop → Refusal
  | .problem p rest =>
      .malformed (Fault.locate text p (text.length - rest.length))
  | .tooManyDigits count => .tooManyDigits count
  | .tooDeep container => .tooDeep container

/-- A reader takes the front of a text and leaves the rest, or stops. -/
abbrev Reader (α : Type) := List Char → Except Stop (α × List Char)

/-- The blanks between the tokens. -/
def isSpace (c : Char) : Bool := c == ' ' || c == '\t' || c == '\n' || c == '\r'

/-- What is left behind the blanks at the front. -/
def skipSpace (s : List Char) : List Char := s.dropWhile isSpace

/-! ## Strings -/

/-- The value of a hexadecimal digit. -/
def hexValue? (c : Char) : Option Nat :=
  if c.isDigit then some (c.toNat - '0'.toNat)
  else if 'a' ≤ c ∧ c ≤ 'f' then some (c.toNat - 'a'.toNat + 10)
  else if 'A' ≤ c ∧ c ≤ 'F' then some (c.toNat - 'A'.toNat + 10)
  else none

/-- The value of the four hexadecimal digits at the front of a text
that goes on behind them. -/
def fourHex? : List Char → Option (Nat × List Char)
  | a :: b :: c :: d :: next :: rest => do
    let a ← hexValue? a
    let b ← hexValue? b
    let c ← hexValue? c
    let d ← hexValue? d
    some (((a * 16 + b) * 16 + c) * 16 + d, next :: rest)
  | _ => none

/-- The character of an escape by code point, whose digits are at
the front of the text. -/
def readCodePoint (mark : List Char) (s : List Char) :
    Except Stop (Char × List Char) :=
  match fourHex? s with
  | none => .error (.problem .codePoint mark)
  | some (high, rest) =>
    match rest with
    | '\\' :: 'u' :: after =>
      if Text.isHighHalf high && 4 < after.length then
        match fourHex? after with
        | none => .error (.problem .codePoint ('u' :: after))
        | some (low, rest') =>
          if Text.isLowHalf low then
            .ok (Text.pairChar high low, rest')
          else .ok (Text.charOf high, rest)
      else .ok (Text.charOf high, rest)
    | _ => .ok (Text.charOf high, rest)

/-- The character that a one-letter escape stands for. -/
def shortEscape? (c : Char) : Option Char :=
  if c == '"' || c == '\\' || c == '/' then some c
  else if c == 'b' then some '\x08'
  else if c == 'f' then some '\x0c'
  else if c == 'n' then some '\n'
  else if c == 'r' then some '\r'
  else if c == 't' then some '\t'
  else none

/-- Reads the rest of a string; `opening` is the text from its first quote
on. -/
def readString (opening : List Char) :
    Nat → List Char → List Char → Except Stop (String × List Char)
  | 0, _, _ => .error (.problem .unterminated opening)
  | depth + 1, found, s =>
    match s with
    | [] => .error (.problem .unterminated opening)
    | '"' :: rest => .ok (String.ofList found.reverse, rest)
    | '\\' :: 'u' :: digits => do
      let (c, rest) ← readCodePoint ('u' :: digits) digits
      readString opening depth (c :: found) rest
    | ['\\'] => .error (.problem .unterminated opening)
    | '\\' :: c :: rest =>
      match shortEscape? c with
      | some e => readString opening depth (e :: found) rest
      | none => .error (.problem .escape s)
    | c :: rest =>
      if c.toNat < 0x20 then .error (.problem .control s)
      else readString opening depth (c :: found) rest

/-! ## Numbers -/

/-- The digits before the point: a zero alone, or digits that do not begin with
zero. -/
def wholeDigits : List Char → List Char
  | '0' :: _ => ['0']
  | s => s.takeWhile Char.isDigit

/-- The fraction at the front of a text, if a digit follows the point. -/
def fractionDigits : List Char → Option (List Char × List Char)
  | '.' :: rest =>
    let digits := rest.takeWhile Char.isDigit
    if digits.isEmpty then none else some (digits, rest.dropWhile Char.isDigit)
  | _ => none

/-- The exponent at the front of a text, if it has a digit. -/
def exponentValue : List Char → Option (Int × List Char)
  | c :: rest =>
    if c == 'e' || c == 'E' then
      let (negative, rest) := Numeral.readSign rest
      let digits := rest.takeWhile Char.isDigit
      if digits.isEmpty then none
      else
        let n : Int := Numeral.value digits
        some (if negative then -n else n, rest.dropWhile Char.isDigit)
    else none
  | [] => none

/-- Reads a number. -/
def readNumber : Reader Value := fun s =>
  let negative := s.head? == some '-'
  let body := if negative then s.drop 1 else s
  let whole := wholeDigits body
  if whole.isEmpty then .error (.problem .value s)
  else
    let rest := body.drop whole.length
    let fraction := fractionDigits rest
    let rest := (fraction.map Prod.snd).getD rest
    let exponent := exponentValue rest
    let rest := (exponent.map Prod.snd).getD rest
    let decimals := (fraction.map Prod.fst).getD []
    if fraction.isNone && exponent.isNone then
      let n : Int := Numeral.value whole
      if mostDigits < whole.length then .error (.tooManyDigits whole.length)
      else .ok (.int (if negative then -n else n), rest)
    else
      let e := (exponent.map Prod.fst).getD 0 - decimals.length
      .ok (.real
        (Binary64.ofDecimal negative (Numeral.value (whole ++ decimals)) e),
        rest)

/-! ## Values -/

mutual

/-- Reads a value at the front of a text.  The value may be `level` containers
deep. -/
def readValue (level : Nat) : Nat → Reader Value
  | 0, s => .error (.problem .value s)
  | depth + 1, s =>
    match s with
    | '"' :: rest => do
      let (text, rest) ← readString s (rest.length + 1) [] rest
      .ok (.string text, rest)
    | '{' :: rest =>
      match level, skipSpace rest with
      | 0, _ => .error (.tooDeep .object)
      | _ + 1, '}' :: rest => .ok (.object [], rest)
      | level + 1, rest => readFields level depth [] rest
    | '[' :: rest =>
      match level, skipSpace rest with
      | 0, _ => .error (.tooDeep .array)
      | _ + 1, ']' :: rest => .ok (.list [], rest)
      | level + 1, rest => readItems level depth [] rest
    | 'n' :: 'u' :: 'l' :: 'l' :: rest => .ok (.null, rest)
    | 't' :: 'r' :: 'u' :: 'e' :: rest => .ok (.bool true, rest)
    | 'f' :: 'a' :: 'l' :: 's' :: 'e' :: rest => .ok (.bool false, rest)
    | 'N' :: 'a' :: 'N' :: rest => .ok (.real .nan, rest)
    | 'I' :: 'n' :: 'f' :: 'i' :: 'n' :: 'i' :: 't' :: 'y' :: rest =>
      .ok (.real (.infinite false), rest)
    | '-' :: 'I' :: 'n' :: 'f' :: 'i' :: 'n' :: 'i' :: 't' :: 'y' :: rest =>
      .ok (.real (.infinite true), rest)
    | _ => readNumber s

/-- Reads the fields of an object from the first name on. -/
def readFields (level : Nat) : Nat → Fields → Reader Value
  | 0, _, s => .error (.problem .name s)
  | depth + 1, found, s =>
    match s with
    | '"' :: rest => do
      let (name, rest) ← readString s (rest.length + 1) [] rest
      match skipSpace rest with
      | ':' :: rest =>
        let (v, rest) ← readValue level depth (skipSpace rest)
        let found := found.set name v
        match skipSpace rest with
        | '}' :: rest => .ok (.object found, rest)
        | ',' :: rest => readFields level depth found (skipSpace rest)
        | rest => .error (.problem .comma rest)
      | rest => .error (.problem .colon rest)
    | _ => .error (.problem .name s)

/-- Reads the items of a list from the first one on; those found so far are in
reverse. -/
def readItems (level : Nat) : Nat → List Value → Reader Value
  | 0, _, s => .error (.problem .value s)
  | depth + 1, found, s => do
    let (v, rest) ← readValue level depth s
    let found := v :: found
    match skipSpace rest with
    | ']' :: rest => .ok (.list found.reverse, rest)
    | ',' :: rest => readItems level depth found (skipSpace rest)
    | rest => .error (.problem .comma rest)

end

/-- Reads one value that is all of a text, blanks around it apart. -/
def readAll (text : List Char) : Except Stop Value := do
  let (v, rest) ← readValue deepest (text.length + 1) (skipSpace text)
  match skipSpace rest with
  | [] => .ok v
  | rest => .error (.problem .extra rest)

/-- Reads characters as JSON.  A mark of the byte order at their
front does not count. -/
def readChars (chars : List Char) : Except Refusal Value :=
  let chars := match chars with
    | '\uFEFF' :: rest => rest
    | chars => chars
  (readAll chars).mapError (Stop.refusal chars)

/-- Reads a text as JSON, whose bytes may turn out to be of another encoding. -/
def read (text : String) : Except Refusal Value :=
  match decode text.toList with
  | .ok chars => readChars chars
  | .error fault => .error (.undecodable fault)

end Notices.Json
