/-!
# Classes of characters

A class of characters is told by a test, or by a table of ranges of their code
points.

* `isWhiteSpace` is the Unicode property `White_Space`.  Numerals in a
  configuration are trimmed by it.
* `isBlank` adds the four information separators U+001C to U+001F.  Blanks stand
  between the opening of a conditional tag and its name, and they are dropped
  from the domain of an address.
* `isLineSeparator` holds of the characters that end a line of text.
* `inRanges` is the class of a table of ranges.
-/

namespace Notices.Text

/-- The Unicode property `White_Space`. -/
def isWhiteSpace (c : Char) : Bool :=
  let n := c.toNat
  (9 ≤ n && n ≤ 13) || n == 0x20 || n == 0x85 || n == 0xA0 || n == 0x1680 ||
    (0x2000 ≤ n && n ≤ 0x200A) || n == 0x2028 || n == 0x2029 || n == 0x202F ||
      n == 0x205F ||
    n == 0x3000

/-- White space, or one of the information separators U+001C to U+001F. -/
def isBlank (c : Char) : Bool :=
  isWhiteSpace c || (0x1C ≤ c.toNat && c.toNat ≤ 0x1F)

/-- The characters that end a line. -/
def isLineSeparator (c : Char) : Bool :=
  let n := c.toNat
  (10 ≤ n && n ≤ 13) || (0x1C ≤ n && n ≤ 0x1E) || n == 0x85 || n == 0x2028 ||
    n == 0x2029

/-- Whether a character is in one of some ranges, both ends included. -/
def inRanges (ranges : List (Nat × Nat)) (c : Char) : Bool :=
  ranges.any fun range => range.1 ≤ c.toNat && c.toNat ≤ range.2

/-- Removes the characters of a class from both ends of a text. -/
def trimBy (p : Char → Bool) (s : List Char) : List Char :=
  ((s.dropWhile p).reverse.dropWhile p).reverse

end Notices.Text
