import Notices.Email.AddressList
import Notices.Email.MessageId
import Notices.Number.Shortest

/-!
# Email messages

A mail is composed into a message: five headers, a plain text and a version of
it with markup.  Its texts may hold halves of surrogate pairs.

* `header` sets a header: its text is read, and what has been read is written
  again in its usual form.
* `Draft.headers?` sets the headers in their order, sender, recipient, reply
  address and subject, and stops at the first one that cannot be set.
* `Draft.compose?` adds the message id, which is numbered and ends in the
  domain of the sender, and the bodies.
* Both bodies end with a line feed, and each of their lines ends with just
  that.
-/

namespace Notices.Email

/-- A mail to be sent. -/
structure Mail where
  recipient : String
  subject : String
  html : String
  text : String
  senderName : String
  senderAddress : String
  replyTo : Option String := none
  deriving DecidableEq, Repr, Inhabited

/-- A mail whose texts may hold halves of surrogate pairs. -/
structure Draft where
  recipient : Glyphs
  subject : Glyphs
  html : Glyphs
  text : Glyphs
  senderName : Glyphs
  senderAddress : Glyphs
  replyTo : Option Glyphs := none
  deriving DecidableEq, Repr

/-- A message as it is handed to a server. -/
structure Message where
  sender : String
  recipient : String
  replyTo : String
  subject : String
  id : String
  text : String
  html : String
  deriving DecidableEq, Repr, Inhabited

/-- The headers of a message but for its id. -/
structure Headers where
  sender : String
  recipient : String
  replyTo : String
  subject : String
  deriving DecidableEq, Repr

/-! ## Texts -/

/-- An ASCII character. -/
def isAscii (c : Char) : Bool := c.toNat < 128

/-- The characters of a text, which may not hold halves of pairs. -/
def chars? (s : Glyphs) : Except MailError (List Char) :=
  match runOf? Glyph.isHalf Glyph.isHalf s with
  | some run => .error (.notUtf8 run)
  | none => .ok (s.filterMap Glyph.char?)

/-- The text of glyphs, which may not hold halves of pairs that stand for no
byte. -/
def toText? (s : Glyphs) : Except MailError (List Char) :=
  match runOf? Glyph.isLone Glyph.isHalf s with
  | some run => .error (.notUtf8 run)
  | none => .ok (toText s)

/-! ## Headers -/

/-- Sets a header whose text is read in some way. -/
def header (read : Glyphs → Except MailError Glyphs) (s : Glyphs) :
    Except MailError String := do
  if spansLines s then throw .spansLines
  return String.ofList (← toText? (← read s))

/-- The name of a sender as it is written: in quotes if it has special
characters, and encoded if it is not ASCII. -/
def writtenName? (name : Glyphs) : Except MailError Glyphs :=
  if name.all (·.isIn isAscii) then
    let quote := if name.any (·.isIn isSpecial) then [.char '"'] else []
    .ok (quote ++ escapeQuotes name ++ quote)
  else do
    let code := Text.base64 (Text.utf8 (← chars? name))
    return ofText ("=?utf-8?b?".toList ++ code ++ "?=".toList)

/-- The text that the sender is set from. -/
def senderText? (name address : Glyphs) : Except MailError Glyphs :=
  if name.isEmpty then .ok address
  else do
    let written ← writtenName? name
    return written ++ .char ' ' :: .char '<' :: address ++ [.char '>']

/-- Sets the sender, whose address has to be ASCII. -/
def senderHeader (name address : Glyphs) : Except MailError String :=
  let isForeign (g : Glyph) : Bool := !g.isIn isAscii
  match runOf? isForeign isForeign address with
  | some run => .error (.notAscii run)
  | none => do header addressText (← senderText? name address)

/-! ## Bodies -/

/-- The lines of a body, each ended by a line feed. -/
def bodyLines : List Char → List Char
  | [] => []
  | '\r' :: '\n' :: rest => '\n' :: bodyLines rest
  | '\r' :: rest => '\n' :: bodyLines rest
  | c :: rest => c :: bodyLines rest

/-- A body that ends with a line feed. -/
def body? (s : Glyphs) : Except MailError String := do
  let lines := bodyLines (← chars? s)
  let isEnded := lines.getLast? == some '\n'
  return String.ofList (if isEnded then lines else lines ++ ['\n'])

/-! ## Messages -/

namespace Draft

/-- Where answers go: to the reply address if there is one, and else to the
sender. -/
def answerAddress (d : Draft) : Glyphs :=
  match d.replyTo with
  | some address => if address.isEmpty then d.senderAddress else address
  | none => d.senderAddress

/-- Sets the headers but for the id. -/
def headers? (d : Draft) : Except MailError Headers := do
  let sender ← senderHeader d.senderName d.senderAddress
  let recipient ← header addressText d.recipient
  let replyTo ← header addressText d.answerAddress
  let subject ← header (fun s => .ok (readFreeText s)) d.subject
  return { sender, recipient, replyTo, subject }

/-- The domain of the message id: what stands behind the last `@` of the
sender's address. -/
def idDomain (d : Draft) : Glyphs :=
  let domain :=
    (d.senderAddress.reverse.takeWhile (· != .char '@')).reverse
  if domain.isEmpty then ofText "localhost".toList else domain

/-- The text that the id of a message with a number is set from. -/
def writtenId (d : Draft) (number : Nat) : Glyphs :=
  ofText ("<msg-".toList ++ natText number) ++ .char '@' :: d.idDomain ++
    [.char '>']

/-- Sets the id of a message with a number. -/
def messageId? (d : Draft) (number : Nat) : Except MailError String :=
  header idText (d.writtenId number)

/-- Adds the id and the bodies to the headers. -/
def finish (d : Draft) (headers : Headers) (number : Nat) :
    Except MailError Message := do
  let id ← d.messageId? number
  let text ← body? d.text
  let html ← body? d.html
  return {
    sender := headers.sender
    recipient := headers.recipient
    replyTo := headers.replyTo
    subject := headers.subject
    id
    text
    html }

/-- Composes a message with a number. -/
def compose? (d : Draft) (number : Nat) : Except MailError Message := do
  d.finish (← d.headers?) number

/-- Whether composing a mail uses up a number.  Only a mail whose headers can
be set does. -/
def usesNumber (d : Draft) : Bool := d.headers?.isOk

end Draft

namespace Mail

/-- A mail as a draft. -/
def draft (m : Mail) : Draft where
  recipient := ofText m.recipient.toList
  subject := ofText m.subject.toList
  html := ofText m.html.toList
  text := ofText m.text.toList
  senderName := ofText m.senderName.toList
  senderAddress := ofText m.senderAddress.toList
  replyTo := m.replyTo.map fun address => ofText address.toList

/-- Composes a message with a number. -/
def compose? (m : Mail) (number : Nat) : Except MailError Message :=
  m.draft.compose? number

/-- Whether composing a mail uses up a number. -/
def usesNumber (m : Mail) : Bool := m.draft.usesNumber

end Mail

end Notices.Email
