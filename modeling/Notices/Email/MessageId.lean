import Notices.Email.FreeText
import Notices.Email.Mailbox

/-!
# Message ids

A message id is `<left@right>`.

* `readMessageId` reads one, whose left side is text with points.  The
  bracket that closes it is set if it is missing, and what stands behind it,
  a gap apart, is left out.
* `idText` gives the text of an id.  What is no message id is a free text.
-/

namespace Notices.Email

/-- Reads a literal without blanks, brackets included. -/
def readTightLiteral : Reader Glyphs := do
  Reader.expect '['
  let text ← readLiteralText
  Reader.expect ']'
  return .char '[' :: text ++ [.char ']']

/-- Reads the domain of a message id, as it is written. -/
def readWrittenDomain : Reader Glyphs := do
  let domain ← readDomain
  if domain.isOpen then Reader.fail .openLiteral
  return domain.written

/-- Reads a message id, as it is written. -/
def readMessageId : Reader Glyphs := do
  Reader.expect '<'
  let left ← readDotAtomText
  Reader.expect '@'
  let right ← (Core.written <$> readDotAtomText).orElse
      (readTightLiteral.orElse readWrittenDomain)
  let _ ← Reader.skipIf '>'
  let gap ← readGap?
  return .char '<' :: left.written ++ .char '@' :: right ++
    .char '>' :: gap.getD []

/-- The text of a message id. -/
def idText (s : Glyphs) : Except MailError Glyphs :=
  match readMessageId s with
  | .ok (id, _) => .ok id
  | .error (.error e) => .error e
  | .error .mismatch => .ok (readFreeText s)

end Notices.Email
