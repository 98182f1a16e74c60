import Notices.Text.Parts
import Notices.Url.Name.Composition
import Notices.Url.Name.Direction
import Notices.Url.Name.LowerCase
import Notices.Url.Name.Permitted
import Notices.Url.Name.Place
import Notices.Url.Punycode

/-!
# International host names

The name of a host is labels with points between them.  A name with characters
that are not ASCII is brought into lower case, and each of its labels is
checked and written in ASCII.

* `isLabel` has the rules for a label: it is written in the normal way,
  hyphens and marks are in their places, its characters are permitted where
  they stand, and it reads one way.
* `encodeLabel?` writes a label in ASCII, and `encode?` a whole name.
-/

namespace Notices.Url.Name

/-- Whether every character of a text may stand behind the text
before, which is in reverse. -/
def areInPlace : List Char → List Char → Bool
  | _, [] => true
  | before, c :: rest =>
    (isPermitted c || isInPlace before c rest) && areInPlace (c :: before) rest

/-- Whether hyphens are only inside a label, and not at its third
and fourth places both. -/
def hyphensFit (s : List Char) : Bool :=
  (s.drop 2).take 2 != ['-', '-'] && s.head? != some '-' &&
    s.getLast? != some '-'

/-- Whether a text is a label. -/
def isLabel (s : List Char) : Bool :=
  !s.isEmpty && isNormal s && hyphensFit s && !s.head?.any isMark &&
    areInPlace [] s && readsOneWay s

/-- What the labels in ASCII begin with that stand for others. -/
def encodedStart : List Char := "xn--".toList

/-- Whether a text in ASCII is a label or stands for one. -/
def isAsciiLabel (s : List Char) : Bool :=
  if encodedStart.isPrefixOf s then
    let inside := s.drop encodedStart.length
    !inside.isEmpty && inside.getLast? != some '-' &&
      (Punycode.decode? inside).any isLabel
  else isLabel s

/-- The most characters of a label in ASCII. -/
def longestLabel : Nat := 63

/-- A label in ASCII. -/
def encodeLabel? (s : List Char) : Option (List Char) :=
  let isAscii := s.all Punycode.isBasic
  let encoded := if isAscii then s else encodedStart ++ Punycode.encode s
  if (if isAscii then isAsciiLabel s else isLabel s) &&
    encoded.length ≤ longestLabel then some encoded else none

/-- The points between labels, of which three are those of East Asian
scripts. -/
def isPoint (c : Char) : Bool := ['.', '\u3002', '\uFF0E', '\uFF61'].contains c

/-- The most characters of a name, which may have a point at its end besides. -/
def longestName : Nat := 253

/-- A name in ASCII. -/
def encode? (s : List Char) : Option (List Char) := do
  let s := lower s
  if longestName + 1 < s.length then none
  let labels := Text.parts '.' (s.map fun c => if isPoint c then '.' else c)
  let endsInPoint := labels.getLast? == some []
  let encoded ← (if endsInPoint then labels.dropLast else labels).mapM
      encodeLabel?
  let name := Text.join ['.'] encoded
  if name.length ≤ longestName then
    some (if endsInPoint then name ++ ['.'] else name) else none

end Notices.Url.Name
