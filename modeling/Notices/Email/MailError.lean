import Notices.Email.Glyph
import Notices.Text.Quoted

/-!
# Why a mail cannot be composed

`MailError` has the causes, and `MailError.message` the words for each of them.

A header must not span lines, the address of a sender is ASCII, no part of an
address may hold the end of a line, and halves of surrogate pairs have no
bytes in UTF-8.  The other causes are forms of an address header for which
there is no reading at all: everything else that is not well formed is read
as far as it goes.
-/

namespace Notices.Email

/-- Why a mail cannot be composed. -/
inductive MailError where
  | spansLines
  | brokenAddress
  /-- An address has glyphs that are not ASCII. -/
  | notAscii (run : Run)
  /-- A text has halves of surrogate pairs. -/
  | notUtf8 (run : Run)
  /-- The header ends where an address has to go on. -/
  | endsEarly
  /-- A user or a name has no part at all. -/
  | missingPart
  /-- A domain in brackets is not closed. -/
  | openLiteral
  /-- A domain in brackets begins with a blank, or with nothing. -/
  | blankLiteral
  /-- A name begins with a blank and a point. -/
  | pointBehindGap
  /-- A name begins or ends with a point. -/
  | pointAtEnd
  /-- Something stands between a group and the next comma. -/
  | textBehindGroup
  deriving DecidableEq, Repr

/-- Glyphs that have no bytes in an encoding, as they are reported. -/
def Run.place (run : Run) : String :=
  let code := String.ofList (Text.escapedCodePoint run.glyph.code)
  if run.first = run.last then s!"character '{code}' in position {run.first}"
  else s!"characters in position {run.first}-{run.last}"

/-- The message of an error. -/
def MailError.message : MailError → String
  | .spansLines =>
    "Header values may not contain linefeed or carriage return characters"
  | .brokenAddress =>
    "invalid arguments; address parts cannot contain CR or LF"
  | .notAscii run =>
    s!"'ascii' codec can't encode {run.place}: ordinal not in range(128)"
  | .notUtf8 run =>
    s!"'utf-8' codec can't encode {run.place}: surrogates not allowed"
  | .endsEarly => "string index out of range"
  | .missingPart => "list index out of range"
  | .openLiteral =>
    "'InvalidHeaderDefect' object has no attribute 'all_defects'"
  | .blankLiteral =>
    "cannot access local variable 'pos' where it is not associated with a value"
  | .pointBehindGap =>
    "'ValueTerminal' object does not support item assignment"
  | .pointAtEnd => "'str' object has no attribute 'token_type'"
  | .textBehindGroup => "'Group' object has no attribute 'local_part'"

end Notices.Email
