import Notices.Text.Parts
import Notices.Text.Quoted
import Notices.Text.Utf8

/-!
# Percent encoding and paths

A character that a place in an address cannot hold is written as the bytes of
its UTF-8 form, each as a percent sign and two hexadecimal digits.

* `formEncode` writes a name or a value of a form, where a space becomes a plus.
* `encodeBy` writes a part of an address; each part has a class of characters
  that it holds as they are.
* `percentDecode` reads the bytes of a text again, and `decodeText` the
  characters.

A path is a list of segments with slashes between them.  The segment `.` stands
for the same place and `..` for the place above; `normalizePath` removes both.
-/

namespace Notices.Url

/-- A byte as a percent sign and two upper-case hexadecimal digits. -/
def percentByte (b : UInt8) : List Char :=
  '%' :: (Text.hexText 2 b.toNat).map Char.toUpper

/-- A character as its bytes. -/
def percentChar (c : Char) : List Char :=
  (String.utf8EncodeChar c).flatMap percentByte

/-- The characters that a form holds as they are. -/
def isUnreserved (c : Char) : Bool :=
  c.isAlphanum || c == '_' || c == '.' || c == '-' || c == '~'

/-- A character in a form. -/
def formChar (c : Char) : List Char :=
  if isUnreserved c then [c] else if c == ' ' then ['+'] else percentChar c

/-- A name or a value in a form. -/
def formEncode (s : List Char) : List Char := s.flatMap formChar

/-- The fields of a form, with their names, in their order. -/
def formText : List (String × String) → List Char
  | [] => []
  | [(name, value)] => formEncode name.toList ++ '=' :: formEncode value.toList
  | (name, value) :: rest =>
    formEncode name.toList ++ '=' :: formEncode value.toList ++
      '&' :: formText rest

/-- A text in which the characters that a place holds are kept, and all
others are percent encoded. -/
def encodeBy (keeps : Char → Bool) (s : List Char) : List Char :=
  s.flatMap fun c => if keeps c then [c] else percentChar c

/-- The ASCII characters that can be seen. -/
def isVisible (c : Char) : Bool := 0x20 < c.toNat && c.toNat < 0x7F

/-- The characters that the fragment of an address holds. -/
def isFragmentChar (c : Char) : Bool :=
  isVisible c && !(['"', '<', '>', '`'].contains c)

/-- The characters that the query of an address holds. -/
def isQueryChar (c : Char) : Bool :=
  isVisible c && !(['"', '#', '<', '>'].contains c)

/-- The characters that the path of an address holds. -/
def isPathChar (c : Char) : Bool :=
  isQueryChar c && !(['?', '`', '{', '}'].contains c)

/-- The characters that the user of an address holds. -/
def isUserChar (c : Char) : Bool :=
  isPathChar c && !(['/', ';', '=', '@', '[', '\\', ']', '^', '|'].contains c)

/-- The characters that the name of a host holds. -/
def isHostChar (c : Char) : Bool :=
  isUnreserved c ||
    ['!', '$', '&', '\'', '(', ')', '*', '+', ',', ';', '=', '"', '`', '{', '}',
      '%', '|', '\\'].contains c

/-- The value of a hexadecimal digit. -/
def hexDigit? (c : Char) : Option Nat :=
  if c.isDigit then some (c.toNat - '0'.toNat)
  else if 'a' ≤ c ∧ c ≤ 'f' then some (c.toNat - 'a'.toNat + 10)
  else if 'A' ≤ c ∧ c ≤ 'F' then some (c.toNat - 'A'.toNat + 10)
  else none

/-- The bytes that a text stands for.  A percent sign without two hexadecimal
digits stands for itself. -/
def percentDecode : List Char → List UInt8
  | [] => []
  | '%' :: a :: b :: rest =>
    match hexDigit? a, hexDigit? b with
    | some high, some low => UInt8.ofNat (high * 16 + low) :: percentDecode rest
    | _, _ => String.utf8EncodeChar '%' ++ percentDecode (a :: b :: rest)
  | c :: rest => String.utf8EncodeChar c ++ percentDecode rest

/-- The text that a part of an address stands for. -/
def decodeText (s : List Char) : List Char := Text.readUtf8 (percentDecode s)

/-- The text that a part of a form or a query stands for, where a plus is a
space. -/
def decodeFormText (s : List Char) : List Char :=
  decodeText (s.map fun c => if c == '+' then ' ' else c)

/-! ## Paths -/

/-- The segments that are left when `.` and `..` are removed; those found
so far are in reverse. -/
def dropDots : List (List Char) → List (List Char) → List (List Char)
  | found, [] => found.reverse
  | found, segment :: rest =>
    if segment = ['.'] then dropDots found rest
    else if segment = ['.', '.'] then
      dropDots (if found = [] ∨ found = [[]] then found else found.drop 1) rest
    else dropDots (segment :: found) rest

/-- A path without the segments `.` and `..`. -/
def normalizePath (path : List Char) : List Char :=
  Text.join ['/'] (dropDots [] (Text.parts '/' path))

end Notices.Url
