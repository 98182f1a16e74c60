import Notices.Text.Quoted
import Notices.Text.Utf8

/-!
# The encoding of a JSON text

A JSON text arrives as bytes in units of one, two or four bytes, of either byte
order for the larger units.  It begins with ASCII characters, so that the zeros
among its first bytes tell the unit and the order.

* `Encoding.of` tells the encoding of bytes by their first four.
* `decode` gives the characters of the bytes of a text.  Half of a
  surrogate pair stands for no character and is replaced; a unit that is
  cut off or no code point is a fault.
-/

namespace Notices.Json

/-- How bytes make up a text: in UTF-8, or in larger units with the most
significant byte first or last. -/
inductive Encoding where
  | utf8
  | utf16 (bigEndian : Bool)
  | utf32 (bigEndian : Bool)
  deriving DecidableEq, Repr

namespace Encoding

/-- The encoding of bytes. -/
def of : List UInt8 → Encoding
  | a :: b :: c :: d :: _ =>
    if a == 0 then (if b == 0 then .utf32 true else .utf16 true)
    else if b ==
      0 then (if c == 0 && d == 0 then .utf32 false else .utf16 false)
    else .utf8
  | [a, b] => if a == 0 then .utf16 true else if b == 0 then .utf16 false
      else .utf8
  | _ => .utf8

/-- The name of an encoding. -/
def name : Encoding → String
  | .utf8 => "utf-8"
  | .utf16 bigEndian => if bigEndian then "utf-16-be" else "utf-16-le"
  | .utf32 bigEndian => if bigEndian then "utf-32-be" else "utf-32-le"

end Encoding

/-- Why bytes are not decoded. -/
inductive EncodingProblem where
  | truncated
  | noCodePoint
  deriving DecidableEq, Repr

/-- The words for a problem. -/
def EncodingProblem.text : EncodingProblem → String
  | .truncated => "truncated data"
  | .noCodePoint => "code point not in range(0x110000)"

/-- Bytes that cannot be decoded: their first one, and the positions of
the first and the last. -/
structure EncodingFault where
  encoding : Encoding
  problem : EncodingProblem
  byte : UInt8
  first : Nat
  last : Nat
  deriving DecidableEq, Repr

/-- The message for a fault. -/
def EncodingFault.message (f : EncodingFault) : String :=
  let bytes :=
    if f.first = f.last then
      s!"byte 0x{String.ofList (Text.hexText 2 f.byte.toNat)} in position {f.first}"
    else s!"bytes in position {f.first}-{f.last}"
  s!"'{f.encoding.name}' codec can't decode {bytes}: {f.problem.text}"

/-- Groups of two bytes as numbers, and the byte that is left over. -/
def units16 (bigEndian : Bool) : List UInt8 → List Nat × Option UInt8
  | [] => ([], none)
  | [a] => ([], some a)
  | a :: b :: rest =>
    let (units, left) := units16 bigEndian rest
    ((if bigEndian then a.toNat * 256 + b.toNat else b.toNat * 256 + a.toNat) ::
      units, left)

/-- The characters of UTF-16 units. -/
def ofUnits16 : List Nat → List Char
  | [] => []
  | [u] => [Text.charOf u]
  | u :: v :: rest =>
    if Text.isHighHalf u &&
      Text.isLowHalf v then Text.pairChar u v :: ofUnits16 rest
    else Text.charOf u :: ofUnits16 (v :: rest)

/-- The characters of bytes in UTF-16. -/
def decode16 (bigEndian : Bool) (bytes : List UInt8) :
    Except EncodingFault (List Char) :=
  match units16 bigEndian bytes with
  | (units, none) => .ok (ofUnits16 units)
  | (units, some byte) =>
    .error ⟨.utf16 bigEndian, .truncated, byte, 2 * units.length,
      2 * units.length⟩

/-- The characters of bytes in UTF-32 from a position on; those found
so far are in reverse. -/
def decode32 (bigEndian : Bool) :
    Nat → List Char → List UInt8 → Except EncodingFault (List Char)
  | _, found, [] => .ok found.reverse
  | position, found, a :: b :: c :: d :: rest =>
    let n :=
      if bigEndian then
        ((a.toNat * 256 + b.toNat) * 256 + c.toNat) * 256 + d.toNat
      else ((d.toNat * 256 + c.toNat) * 256 + b.toNat) * 256 + a.toNat
    if n < 0x110000 then
      decode32 bigEndian (position + 4) (Text.charOf n :: found) rest
    else .error ⟨.utf32 bigEndian, .noCodePoint, a, position, position + 3⟩
  | position, _, a :: rest =>
    .error ⟨.utf32 bigEndian, .truncated, a, position, position + rest.length⟩

/-- The characters of a text whose bytes are those of the given text in
UTF-8. -/
def decode (text : List Char) : Except EncodingFault (List Char) :=
  let bytes := Text.utf8 text
  match Encoding.of bytes with
  | .utf8 => .ok text
  | .utf16 bigEndian => decode16 bigEndian bytes
  | .utf32 bigEndian => decode32 bigEndian 0 [] bytes

end Notices.Json
