import Notices.Email.EncodedWord
import Notices.Email.Reader

/-!
# Words

An address header is made of words, with gaps between them.  A gap is blanks and
comments, and counts as one space.  A word is an atom, an encoded word or a text
in quotes, with the gaps at its ends.

* `readWord` reads a word, and `readAtom` and `readDotAtom` words that are not
  in quotes.
* `readPhrase` reads words, points and gaps, which are a name.
* Everything has the form in which it is written when the header is put together
  again, and what it says: `Word.written` and `Word.value`.
-/

namespace Notices.Email

/-! ## Gaps -/

/-- The inside of a comment at a depth below the outermost one, and what is
behind it.  A backslash protects the character behind it, unless that is a
space, and a comment that is not closed is closed at the end. -/
def comment : Nat → Glyphs → Glyphs × Glyphs
  | depth, [] => (List.replicate (depth + 1) (.char ')'), [])
  | depth, .char '\\' :: g :: rest =>
    if g.isIn isSpace then comment depth (g :: rest)
    else
      let (inside, after) := comment depth rest
      (if g.isIn (['\\', '(', ')'].contains ·) then
        (.char '\\' :: g :: inside, after) else (g :: inside, after))
  | depth, g :: rest =>
    if g = .char ')' then
      match depth with
      | 0 => ([g], rest)
      | depth + 1 =>
        let (inside, after) := comment depth rest
        (g :: inside, after)
    else if g = .char '\\' then comment depth rest
    else
      let (inside, after) :=
        comment (if g = .char '(' then depth + 1 else depth) rest
      (g :: inside, after)

/-- The next blanks or comment of a gap. -/
def gapPiece : StateM Glyphs (Option Glyphs) := fun s =>
  match s with
  | [] => (none, [])
  | g :: rest =>
    if g.isIn isSpace then
      let (blanks, rest) := s.span (·.isIn Text.isBlank)
      (some blanks, rest)
    else if g = .char '(' then
      let (inside, rest) := comment 0 rest
      (some (g :: inside), rest)
    else (none, s)

/-- The gap that a header begins with, and what is behind it. -/
def splitGap (s : Glyphs) : Glyphs × Glyphs :=
  let (pieces, rest) := (many gapPiece : StateM Glyphs (List Glyphs)) s
  (pieces.flatten, rest)

/-- Reads a gap. -/
def readGap : Reader Glyphs := modifyGet splitGap

/-- Reads a gap if there is one. -/
def readGap? : Reader (Option Glyphs) := do
  if ← Reader.nextIs opensGap then return some (← readGap) else return none

/-- What a gap says, if there is one. -/
def gapValue (gap : Option Glyphs) : Glyphs :=
  if gap.isSome then [.char ' '] else []

/-! ## Words -/

/-- A word without its gaps.  It is hollow if there is nothing in it to be
taken for its beginning. -/
structure Core where
  written : Glyphs
  value : Glyphs
  isHollow : Bool := false
  deriving DecidableEq, Repr

/-- A word with the gaps at its ends. -/
structure Word where
  before : Option Glyphs
  core : Core
  after : Option Glyphs
  deriving DecidableEq, Repr

namespace Word

/-- How a word is written. -/
def written (w : Word) : Glyphs :=
  w.before.getD [] ++ w.core.written ++ w.after.getD []

/-- What a word says. -/
def value (w : Word) : Glyphs :=
  gapValue w.before ++ w.core.value ++ gapValue w.after

end Word

/-- Glyphs in which a space and the blanks behind it are one space. -/
def collapse : Glyphs → Glyphs
  | [] => []
  | g :: rest =>
    if g.isIn isSpace then
      .char ' ' :: collapse (rest.dropWhile (·.isIn Text.isBlank))
    else g :: collapse rest
termination_by s => s.length
decreasing_by
  · have := (List.dropWhile_sublist (·.isIn Text.isBlank) (l := rest)).length_le
    simp only [List.length_cons]
    omega
  · simp

/-- Reads an encoded word. -/
def readEncoded : Reader Core := do
  match readEncodedWord? (← get) with
  | some (word, rest) =>
    set rest
    return { written := word, value := collapse word, isHollow := word.isEmpty }
  | none => Reader.mismatch

/-- Reads a run of glyphs that an atom can hold. -/
def readAtomText : Reader Core := do
  let (text, rest) := (← get).span (!·.isIn endsAtom)
  if text.isEmpty then Reader.mismatch
  set rest
  return { written := text, value := text }

/-- Whether a text with points in it has nothing at one side of a point. -/
def hasEmptyLabel (s : Glyphs) : Bool :=
  (Text.parts (.char '.') s).any List.isEmpty

/-- Reads runs of glyphs that an atom can hold, with points between them. -/
def readDotAtomText : Reader Core := do
  let (text, rest) := (← get).span fun g => g = .char '.' || !g.isIn endsAtom
  if text.isEmpty || hasEmptyLabel text then Reader.mismatch
  set rest
  return { written := text, value := text }

/-- Reads a word with its gaps. -/
def withGaps (core : Reader Core) : Reader Word := do
  let before ← readGap?
  let core ← core
  return { before, core, after := ← readGap? }

/-- Reads an atom or an encoded word. -/
def readAtom : Reader Word := withGaps (readEncoded.orElse readAtomText)

/-- Reads an encoded word, or atoms with points between them. -/
def readDotAtom : Reader Word := withGaps (readEncoded.orElse readDotAtomText)

/-! ## Quotes -/

/-- The text before a space or a character of a class, and the rest.
A backslash protects the character behind it, unless that is a
space, and is left out. -/
def splitUnescaped (ends : Char → Bool) : Glyphs → Glyphs × Glyphs
  | [] => ([], [])
  | .char '\\' :: g :: rest =>
    if g.isIn isSpace then ([], g :: rest)
    else
      let (inside, after) := splitUnescaped ends rest
      (g :: inside, after)
  | g :: rest =>
    if g = .char '\\' then splitUnescaped ends rest
    else if g.isIn fun c => isSpace c || ends c then ([], g :: rest)
    else
      let (inside, after) := splitUnescaped ends rest
      (g :: inside, after)

/-- The next piece of a text in quotes. -/
def quotedPiece : StateM Glyphs (Option Piece) := fun s =>
  match s with
  | [] => (none, [])
  | g :: _ =>
    if g = .char '"' then (none, s)
    else if g.isIn isSpace then
      let (blanks, rest) := s.span (·.isIn Text.isBlank)
      (some (.blanks blanks), rest)
    else
      match readEncodedWord? s with
      | some (word, rest) => (some (.encoded word), rest)
      | none =>
        let (text, rest) := splitUnescaped (· == '"') s
        (some (.plain text), rest)

/-- The pieces of a text behind the quote that opens it, and what is behind the
quote that closes it.  Two quotes have an empty piece between them. -/
def splitQuoted (s : Glyphs) : List Piece × Glyphs :=
  let (pieces, rest) := (many quotedPiece : StateM Glyphs (List Piece)) s
  (if s.head? = some (.char '"') then [.plain []] else pieces, rest.drop 1)

/-- Reads a text in quotes. -/
def readQuoted : Reader Core := do
  Reader.expect '"'
  let pieces ← modifyGet splitQuoted
  let text := Piece.join pieces
  return { written := inQuotes text, value := text, isHollow := pieces.isEmpty }

/-- Reads a word. -/
def readWord : Reader Word := withGaps do
  if ← Reader.nextIs (· == '"') then readQuoted
  else readEncoded.orElse readAtomText

/-! ## Phrases -/

/-- A part of a phrase or of a user.  A backslash can only be in a user. -/
inductive Part where
  | word (w : Word)
  | point
  | backslash
  | gap (written : Glyphs)
  deriving DecidableEq, Repr

/-- What a part says. -/
def Part.value : Part → Glyphs
  | .word w => w.value
  | .point => [.char '.']
  | .backslash => [.char '\\']
  | .gap _ => [.char ' ']

/-- Reads a word, or else a gap. -/
def readWordOrGap : Reader Part := (Part.word <$> readWord).orElse do
  if ← Reader.nextIs opensGap then return .gap (← readGap) else Reader.mismatch

/-- Reads the parts of a phrase. -/
def readPhrase : Reader (List Part) := many do
  if (← Reader.atEnd) || (← Reader.nextIs endsPhrase) then return none
  else if ← Reader.skipIf '.' then return some .point
  else return some (← readWordOrGap)

/-- The parts of a phrase without the gap that it begins with. -/
def dropGapBefore : List Part → Except MailError (List Part)
  | .gap _ :: rest => .ok rest
  | .word w :: rest => .ok (.word { w with before := none } :: rest)
  | _ => .error .pointAtEnd

/-- The parts of a phrase without the gap that it ends with. -/
def dropGapAfter (parts : List Part) : Except MailError (List Part) :=
  match parts.getLast? with
  | none => .error .missingPart
  | some (.gap _) => .ok parts.dropLast
  | some (.word w) => .ok (parts.dropLast ++ [.word { w with after := none }])
  | some _ => .error .pointAtEnd

/-- The name that a phrase says.  It has no gaps at its ends. -/
def nameOf (phrase : List Part) : Except MailError Glyphs :=
  if phrase.isEmpty then .ok []
  else do
    let parts ← dropGapAfter (← dropGapBefore phrase)
    return parts.flatMap Part.value

end Notices.Email
