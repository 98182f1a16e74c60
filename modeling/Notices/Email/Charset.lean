import Notices.Email.Glyph
import Notices.Text.CodePage
import Notices.Text.Parts
import Notices.Text.Utf8

/-!
# Charsets

A charset tells which characters bytes stand for: a code page, UTF-8, or
units of two or four bytes.

* `Charset.ofName?` finds a charset by its name.  Case does not count, and
  neither does what stands between the words of a name.
* `Charset.decode?` gives the glyphs of bytes.  Bytes above ASCII that stand for
  no character are kept as bytes; there are no glyphs if such a byte is ASCII.
* `decodeNamed?` takes bytes of a charset that is not known for ASCII.
-/

namespace Notices.Email

/-- The order of the bytes of a unit; it may be marked at the beginning of a
text. -/
inductive ByteOrder where
  | bigEndian
  | littleEndian
  | marked
  deriving DecidableEq, Repr

/-- A charset.  A text in UTF-8 may have a mark at its beginning. -/
inductive Charset where
  | page (p : Text.CodePage)
  | utf8 (isMarked : Bool)
  | utf16 (order : ByteOrder)
  | utf32 (order : ByteOrder)

namespace Charset

/-! ## Names -/

/-- A name in its usual form: its words in lower case with
underscores between them. -/
def usualName (s : List Char) : List Char :=
  let isWordChar (c : Char) : Bool := c.isAlphanum || c == '.'
  let words :=
    Text.parts ' ' (s.map fun c => if isWordChar c then c.toLower else ' ')
  Text.join ['_'] (words.filter (!·.isEmpty))

/-- The Unicode charset with a name in its usual form. -/
def unicodeOfName? (name : String) : Option Charset :=
  match name with
  | "utf_8" | "u8" | "utf" | "utf8" | "utf8_ucs2" | "utf8_ucs4" | "cp65001" =>
      some (.utf8 false)
  | "utf_8_sig" => some (.utf8 true)
  | "utf_16" | "u16" | "utf16" => some (.utf16 .marked)
  | "utf_16_le" | "unicodelittleunmarked" | "utf_16le" =>
      some (.utf16 .littleEndian)
  | "utf_16_be" | "unicodebigunmarked" | "utf_16be" => some (.utf16 .bigEndian)
  | "utf_32" | "u32" | "utf32" => some (.utf32 .marked)
  | "utf_32_le" | "utf_32le" => some (.utf32 .littleEndian)
  | "utf_32_be" | "utf_32be" => some (.utf32 .bigEndian)
  | _ => none

/-- The charset with a name. -/
def ofName? (s : List Char) : Option Charset :=
  let name := String.ofList (usualName s)
  match unicodeOfName? name with
  | some charset => some charset
  | none => (Text.CodePage.ofName? name).map .page

/-! ## Decoding -/

/-- The number that bytes make up. -/
def number (isBig : Bool) (bytes : List UInt8) : Nat :=
  (if isBig then bytes else bytes.reverse).foldl
    (fun n b => 256 * n + b.toNat) 0

/-- What bytes in units of two begin with, of which the first one is given. -/
def front16 (isBig : Bool) (b : UInt8) (rest : List UInt8) : Text.Front :=
  match rest with
  | [] => .broken 0
  | c :: rest =>
    let unit := number isBig [b, c]
    if Text.isHighHalf unit then
      match rest with
      | d :: e :: _ =>
        let next := number isBig [d, e]
        if Text.isLowHalf next then .char (Text.pairChar unit next) 3
          else .broken 1
      | _ => .broken (1 + rest.length)
    else if Text.isLowHalf unit then .broken 1
    else .char (Text.charOf unit) 1

/-- What bytes in units of four begin with, of which the first one is given. -/
def front32 (isBig : Bool) (b : UInt8) (rest : List UInt8) : Text.Front :=
  match rest with
  | c :: d :: e :: _ =>
    let unit := number isBig [b, c, d, e]
    if unit.isValidChar then .char (Text.charOf unit) 3 else .broken 3
  | _ => .broken rest.length

/-- What bytes in a code page begin with, of which the first one is given. -/
def frontPage (p : Text.CodePage) (b : UInt8) : Text.Front :=
  match p.char? b with
  | some c => .char c 0
  | none => .broken 0

/-- The glyphs of bytes, of which `front` tells what they begin with. -/
def decodeBy? (front : UInt8 → List UInt8 → Text.Front) :
    List UInt8 → Option Glyphs
  | [] => some []
  | b :: rest =>
    match front b rest with
    | .char c more => (decodeBy? front (rest.drop more)).map (.char c :: ·)
    | .broken more =>
      if b < 128 then none
      else
        let kept := (rest.take more).takeWhile (128 ≤ ·)
        (decodeBy? front (rest.drop kept.length)).map
          (.byte b :: kept.map .byte ++ ·)
termination_by bytes => bytes.length
decreasing_by all_goals simp only [List.length_cons, List.length_drop]; omega

/-- Bytes without a mark at their beginning. -/
def unmarked (mark bytes : List UInt8) : List UInt8 :=
  if mark.isPrefixOf bytes then bytes.drop mark.length else bytes

/-- The glyphs of bytes in a charset. -/
def decode? (charset : Charset) (bytes : List UInt8) : Option Glyphs :=
  match charset with
  | .page p => decodeBy? (fun b _ => frontPage p b) bytes
  | .utf8 isMarked =>
      decodeBy? Text.frontUtf8
        (if isMarked then unmarked [0xEF, 0xBB, 0xBF] bytes else bytes)
  | .utf16 .bigEndian => decodeBy? (front16 true) bytes
  | .utf16 .littleEndian => decodeBy? (front16 false) bytes
  | .utf16 .marked =>
    if [0xFE, 0xFF].isPrefixOf bytes then
      decodeBy? (front16 true) (bytes.drop 2)
    else decodeBy? (front16 false) (unmarked [0xFF, 0xFE] bytes)
  | .utf32 .bigEndian => decodeBy? (front32 true) bytes
  | .utf32 .littleEndian => decodeBy? (front32 false) bytes
  | .utf32 .marked =>
    if [0, 0, 0xFE, 0xFF].isPrefixOf bytes then
      decodeBy? (front32 true) (bytes.drop 4)
    else decodeBy? (front32 false) (unmarked [0xFF, 0xFE, 0, 0] bytes)

end Charset

/-- A byte as an ASCII character, or else as a byte. -/
def asciiGlyph (b : UInt8) : Glyph :=
  if b < 128 then .char (Char.ofNat b.toNat) else .byte b

/-- The glyphs of bytes in the charset with a name.  There are none if the
name is a text that has the character zero. -/
def decodeNamed? (name : Glyphs) (bytes : List UInt8) : Option Glyphs :=
  match name.mapM Glyph.char? with
  | none => some (bytes.map asciiGlyph)
  | some name =>
    if name.contains '\x00' then none
    else
      match Charset.ofName? name with
      | some charset => charset.decode? bytes
      | none => some (bytes.map asciiGlyph)

end Notices.Email
