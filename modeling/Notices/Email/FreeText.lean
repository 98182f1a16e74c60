import Notices.Email.EncodedWord
import Notices.Email.Reader

/-!
# Free text

The subject of a mail is free text: words with blanks between them, of which
some may be encoded.  An encoded word need not have blanks around it.

* `freePieces` takes a text apart, and `readFreeText` gives the text with
  its encoded words decoded.
-/

namespace Notices.Email

/-- Whether a text begins with an encoded word by its looks: a charset, an
encoding, and an end. -/
def looksEncoded (s : Glyphs) : Bool :=
  match s with
  | .char '=' :: .char '?' :: rest =>
    match rest.dropWhile (· != .char '?') with
    | _ :: .char c :: .char '?' :: rest => c.toLower ∈ ['q', 'b'] &&
        (Text.cut wordEnd rest).isSome
    | _ => false
  | _ => false

/-- Whether a run has such a beginning anywhere. -/
def holdsEncoded : Glyphs → Bool
  | [] => false
  | g :: rest => looksEncoded (g :: rest) || holdsEncoded rest

/-- The glyphs before the next two that may begin an encoded word. -/
def beforeWord : Glyphs → Glyphs
  | [] => []
  | g :: rest => if (ofText "=?".toList).isPrefixOf (g :: rest) then []
      else g :: beforeWord rest

/-- The next piece of a free text.  A run without spaces is cut before an
encoded word that is inside. -/
def freePiece : StateM Glyphs (Option Piece) := fun s =>
  match s with
  | [] => (none, [])
  | g :: _ =>
    if g.isIn isSpace then
      let (blanks, rest) := s.span (·.isIn Text.isBlank)
      (some (.blanks blanks), rest)
    else
      match readEncodedWord? s with
      | some (word, rest) => (some (.encoded word), rest)
      | none =>
        let run := s.takeWhile (!·.isIn isSpace)
        let isCut := !(ofText "=?".toList).isPrefixOf s && holdsEncoded run
        let plain := if isCut then beforeWord run else run
        (some (.plain plain), s.drop plain.length)

/-- The pieces of a free text. -/
def freePieces (s : Glyphs) : List Piece :=
  ((many freePiece : StateM Glyphs (List Piece)) s).1

/-- A free text with its encoded words decoded. -/
def readFreeText (s : Glyphs) : Glyphs := Piece.join (freePieces s)

end Notices.Email
