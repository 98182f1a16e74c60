import Notices.Text.Class
import Notices.Text.Utf8

/-!
# What a header is made of

A header is a text, and a text can hold halves of surrogate pairs, which are
no characters.  Words in a header may be encoded, and a byte of theirs that
stands for no character is kept as such a half, too.

* A `Glyph` is a character or half of a pair.  `Glyph.byte?` says which byte
  a half stands for, if it does, and `toText` gives the text of glyphs.
* `spansLines` says when a text has more than one line, which no header may
  have.
* `runOf?` finds the first glyphs of a kind, for the places in errors.
* The classes `isSpace` and `isSpecial` are those of the grammar of address
  headers.
-/

namespace Notices.Email

/-- A character, or half of a surrogate pair: that of the code point U+D800
plus a number. -/
inductive Glyph where
  | char (c : Char)
  | half (n : Fin 2048)
  deriving DecidableEq, Repr

/-- A run of glyphs. -/
abbrev Glyphs := List Glyph

/-- The glyphs of a text. -/
def ofText (s : List Char) : Glyphs := s.map .char

namespace Glyph

/-- The code point of a glyph. -/
def code : Glyph → Nat
  | .char c => c.toNat
  | .half n => 0xD800 + n

/-- Whether a glyph is a character of a class. -/
def isIn (p : Char → Bool) : Glyph → Bool
  | .char c => p c
  | .half _ => false

/-- The character that a glyph is. -/
def char? : Glyph → Option Char
  | .char c => some c
  | .half _ => none

/-- Whether a glyph is half of a pair. -/
def isHalf (g : Glyph) : Bool := g.char?.isNone

/-- The half of a pair that stands for a byte. -/
def byte (b : UInt8) : Glyph :=
  .half ⟨0x400 + b.toNat, by have := b.toNat_lt; omega⟩

/-- The byte that a glyph stands for.  Only bytes above ASCII are written in
this way. -/
def byte? : Glyph → Option UInt8
  | .char _ => none
  | .half n =>
    if 0x480 ≤ n.val && n.val < 0x500 then some (UInt8.ofNat (n - 0x400))
    else none

/-- Whether a glyph is half of a pair and stands for no byte. -/
def isLone (g : Glyph) : Bool := g.isHalf && g.byte?.isNone

/-- The bytes of a glyph. -/
def bytes : Glyph → List UInt8
  | .char c => String.utf8EncodeChar c
  | g => g.byte?.toList

end Glyph

/-- The text of glyphs.  If there are bytes among them, all of it is read
again as UTF-8, so that bytes may come together to characters. -/
def toText (s : Glyphs) : List Char :=
  if s.any Glyph.isHalf then Text.readUtf8 (s.flatMap Glyph.bytes)
  else s.filterMap Glyph.char?

/-! ## Lines -/

/-- Whether a text has more than one line.  A carriage return and the line
feed after it end one line together, and a separator at the very end of the
text opens no further line. -/
def spansLines : Glyphs → Bool
  | [] => false
  | .char '\r' :: .char '\n' :: rest => !rest.isEmpty
  | g :: rest =>
    if g.isIn Text.isLineSeparator then !rest.isEmpty else spansLines rest

/-! ## Places -/

/-- Glyphs in a text: the first of them, and the positions of the first and
the last one. -/
structure Run where
  glyph : Glyph
  first : Nat
  last : Nat
  deriving DecidableEq, Repr

/-- The first glyph of a kind with the glyphs behind it that go on. -/
def runOf? (isFirst goesOn : Glyph → Bool) (s : Glyphs) : Option Run :=
  match s.dropWhile (!isFirst ·) with
  | [] => none
  | g :: rest =>
    let first := (s.takeWhile (!isFirst ·)).length
    some ⟨g, first, first + (rest.takeWhile goesOn).length⟩

/-! ## Classes -/

/-- The spaces of a header. -/
def isSpace (c : Char) : Bool := c == ' ' || c == '\t'

/-- The characters that have a meaning in an address header. -/
def isSpecial (c : Char) : Bool :=
  ['(', ')', '<', '>', '@', ',', ':', ';', '.', '\\', '"', '[', ']'].contains c

/-- The characters that no atom holds. -/
def endsAtom (c : Char) : Bool := isSpecial c || isSpace c

/-- The characters that end a phrase: the special ones but for the point, the
quote and the bracket that opens a comment. -/
def endsPhrase (c : Char) : Bool :=
  isSpecial c && !(['.', '"', '('].contains c)

/-- The characters that begin a gap: a space, or the bracket that opens a
comment. -/
def opensGap (c : Char) : Bool := isSpace c || c == '('

/-- A text with a backslash in front of each quote and backslash. -/
def escapeQuotes (s : Glyphs) : Glyphs :=
  s.flatMap fun g =>
    if g.isIn (['"', '\\'].contains ·) then [.char '\\', g] else [g]

/-- A text in quotes. -/
def inQuotes (s : Glyphs) : Glyphs :=
  .char '"' :: escapeQuotes s ++ [.char '"']

end Notices.Email
