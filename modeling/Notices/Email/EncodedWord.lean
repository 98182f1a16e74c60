import Notices.Email.Charset
import Notices.Text.Base64
import Notices.Text.Cut
import Notices.Url.Percent

/-!
# Encoded words

A word of a header may be encoded: `=?charset?encoding?text?=`.  The encoding is
a letter, in either case.  With `q` a text has its bytes in hexadecimal digits
behind equals signs, and an underscore for a space; with `b` it is in base64.

* `readEncodedWord?` reads the encoded word that a header begins with.  What is
  behind it is left, whether or not there is a space between.
* `Piece.join` puts the pieces of a text together: the blanks between two
  encoded words do not count.
-/

namespace Notices.Email

/-! ## Reading -/

/-- The mark at the end of an encoded word. -/
def wordEnd : Glyphs := ofText "?=".toList

/-- A hexadecimal digit. -/
def isHexDigit (c : Char) : Bool := (Url.hexDigit? c).isSome

/-- The inside of an encoded word that begins with `=?`, and what is behind it.
The word ends with the first `?=`, unless that is the mark of the encoding and
the equals sign that the text begins with. -/
def splitWord? (s : Glyphs) : Option (Glyphs × Glyphs) :=
  match s with
  | .char '=' :: .char '?' :: body =>
    match Text.cut wordEnd body with
    | none => none
    | some (inside, rest) =>
      let goesOn := 2 ≤ (rest.takeWhile (·.isIn isHexDigit)).length &&
        inside.count (.char '?') < 2
      if goesOn then
        let (more, rest) := (Text.cut wordEnd rest).getD (rest, [])
        some (inside ++ wordEnd ++ more, rest)
      else some (inside, rest)
  | _ => none

/-- The byte that a glyph in an encoded word stands for. -/
def wordByte? : Glyph → Option UInt8
  | .char c => if c.toNat < 128 then some (UInt8.ofNat c.toNat) else none
  | g => g.byte?

/-- The bytes of a text in hexadecimal digits, which is itself given in bytes.
An equals sign without two digits stands for itself. -/
def hexWordBytes : List UInt8 → List UInt8
  | 0x3D :: high :: low :: rest =>
    let digit? (b : UInt8) : Option Nat := Url.hexDigit? (Char.ofNat b.toNat)
    match digit? high, digit? low with
    | some m, some n => UInt8.ofNat (16 * m + n) :: hexWordBytes rest
    | _, _ => 0x3D :: hexWordBytes (high :: low :: rest)
  | b :: rest => (if b == 0x5F then 0x20 else b) :: hexWordBytes rest
  | [] => []

/-- The bytes of the text of an encoded word.  A text that cannot be
base64 stands for itself. -/
def wordBytes? (encoding : Glyphs) (text : List UInt8) : Option (List UInt8) :=
  match encoding with
  | [.char c] =>
    match c.toLower with
    | 'q' => some (hexWordBytes text)
    | 'b' => some ((Text.readBase64? text).getD text)
    | _ => none
  | _ => none

/-- What the inside of an encoded word stands for.  A language may follow the
charset behind an asterisk. -/
def decodeWord? (inside : Glyphs) : Option Glyphs :=
  match Text.parts (.char '?') inside with
  | [charset, encoding, text] => do
    let bytes ← wordBytes? encoding (← text.mapM wordByte?)
    decodeNamed? (charset.takeWhile (· != .char '*')) bytes
  | _ => none

/-- The encoded word that a header begins with, decoded, and what is behind
it. -/
def readEncodedWord? (s : Glyphs) : Option (Glyphs × Glyphs) := do
  let (inside, rest) ← splitWord? s
  return (← decodeWord? inside, rest)

/-! ## Words among others -/

/-- A piece of a text: blanks, an encoded word, which is decoded, or anything
else. -/
inductive Piece where
  | blanks (s : Glyphs)
  | encoded (s : Glyphs)
  | plain (s : Glyphs)
  deriving DecidableEq, Repr

namespace Piece

/-- The glyphs of a piece. -/
def glyphs : Piece → Glyphs
  | .blanks s | .encoded s | .plain s => s

/-- Puts pieces together. -/
def join : List Piece → Glyphs
  | .encoded s :: .blanks t :: rest =>
    match rest with
    | .encoded _ :: _ => s ++ join rest
    | _ => s ++ t ++ join rest
  | piece :: rest => piece.glyphs ++ join rest
  | [] => []

end Piece

end Notices.Email
