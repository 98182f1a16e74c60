import Notices.Email.Word

/-!
# Mailboxes

A mailbox is `Name <user@domain>` or `user@domain`.

* `readDomain` reads a domain: labels with points between them, or a literal in
  brackets.
* `readUser` reads a user: a word, or words and points in any order.
* `readMailbox` reads a mailbox.  What its parts say is told only after the
  whole header has been read, so that an error in it counts less than one
  in the form of the header.
* `Mailbox.text` prints a mailbox.
-/

namespace Notices.Email

/-! ## Domains -/

/-- A domain as it is written, and what it says.  A literal whose brackets
are not closed is open. -/
structure Domain where
  written : Glyphs
  value : Glyphs
  isOpen : Bool := false
  deriving DecidableEq, Repr

namespace Domain

/-- What a domain says, without blanks. -/
def name (d : Domain) : Glyphs := d.value.filter (!·.isIn Text.isBlank)

/-- A domain with a word behind it. -/
def append (d : Domain) (w : Word) : Domain :=
  { d with written := d.written ++ w.written, value := d.value ++ w.value }

end Domain

/-- Reads the text of a literal up to a space or a bracket. -/
def readLiteralText : Reader Glyphs := do
  if (← Reader.atEnd) ||
    (← Reader.nextIs isSpace) then Reader.fail .blankLiteral
  modifyGet (splitUnescaped fun c => c == '[' || c == ']')

/-- Reads blanks if a space is next. -/
def readBlanks : Reader Glyphs := do
  if ← Reader.nextIs isSpace then modifyGet (·.span (·.isIn Text.isBlank))
    else return []

/-- Reads a domain in brackets. -/
def readLiteral : Reader Domain := do
  Reader.expect '['
  if ← Reader.atEnd then return { written := [], value := [], isOpen := true }
  let before ← readBlanks
  let text ← readLiteralText
  let after ← readBlanks
  if ← Reader.atEnd then return { written := [], value := [], isOpen := true }
  Reader.expect ']'
  let gap ← readGap?
  let written := .char '[' :: before ++ text ++ after ++ [.char ']']
  return { written := written ++ gap.getD [], value := .char '[' :: text ++
    [.char ']'] }

/-- Reads the further labels of a domain, each with the point before it. -/
def readLabels : Reader (List Word) := many do
  if ← Reader.skipIf '.' then return some (← readAtom) else return none

/-- Reads a domain. -/
def readDomain : Reader Domain := do
  if ← Reader.atEnd then Reader.fail .endsEarly
  let before ← readGap?
  let lead (d : Domain) : Domain :=
    { d with
      written := before.getD [] ++ d.written,
      value := gapValue before ++ d.value }
  if ← Reader.nextIs (· == '[') then return lead (← readLiteral)
  let first ← readDotAtom.orElse readAtom
  if ← Reader.nextIs (· == '@') then Reader.mismatch
  let labels ← readLabels
  let point : Domain → Domain := fun d =>
    { d with
      written := d.written ++ [.char '.'], value := d.value ++ [.char '.'] }
  return labels.foldl (fun d w => (point d).append w)
    (lead ⟨first.written, first.value, false⟩)

/-! ## Users -/

/-- Whether the next part of a user that counts is a point, or none. -/
def endsAtPoint : List Part → Bool
  | .gap _ :: rest => endsAtPoint rest
  | .point :: _ | [] => true
  | _ => false

/-- What the parts of a user say, of which those before end in a point or not.
Gaps count only inside. -/
def userText : Bool → List Part → Glyphs
  | _, [] => []
  | atPoint, .gap _ :: rest => userText atPoint rest
  | _, .point :: rest => .char '.' :: userText true rest
  | _, .backslash :: rest => .char '\\' :: userText false rest
  | atPoint, .word w :: rest =>
    (if atPoint then [] else gapValue w.before) ++ w.core.value ++
      (if endsAtPoint rest then [] else gapValue w.after) ++ userText false rest

/-- Reads the parts of a user. -/
def readUserParts : Reader (List Part) := many do
  if ← Reader.atEnd then return none
  else if ← Reader.skipIf '\\' then return some .backslash
  else if ← Reader.nextIs endsPhrase then return none
  else if ← Reader.skipIf '.' then return some .point
  else return some (← readWordOrGap)

/-- Reads what may be a word, and else nothing. -/
def readWord? : Reader (Option Word) :=
  (some <$> readDotAtom.orElse readWord).orElse do
    if (← Reader.nextIs endsPhrase) &&
      !(← Reader.nextIs (· == '\\')) then Reader.mismatch else return none

/-- Reads a user.  If it is more than one word, it is read again in parts. -/
def readUser : Reader (Except MailError Glyphs) := do
  if ← Reader.atEnd then Reader.fail .endsEarly
  let before ← readGap?
  if ← Reader.atEnd then Reader.mismatch
  let word ← readWord?
  let goesOn := !(← Reader.atEnd) &&
    ((← Reader.nextIs (· == '\\')) || !(← Reader.nextIs endsPhrase))
  match goesOn, word with
  | false, some w =>
    return if w.core.isHollow then .error .missingPart else .ok w.core.value
  | _, _ =>
    modify fun rest => before.getD [] ++ (word.map Word.written).getD [] ++ rest
    let parts ← readUserParts
    match parts with
    | [] | [.gap _] => Reader.fail .missingPart
    | parts => return .ok (userText true parts)

/-! ## Mailboxes -/

/-- A mailbox: the name of its owner, its user and its domain.  Each may be
empty. -/
structure Mailbox where
  name : Glyphs
  user : Glyphs
  domain : Glyphs
  deriving DecidableEq, Repr

namespace Mailbox

/-- The mailbox that has nothing. -/
def nobody : Mailbox := ⟨[], [], []⟩

/-- Whether a part of the mailbox holds the end of a line. -/
def isBroken (m : Mailbox) : Bool :=
  (m.name ++ m.user ++ m.domain).any (·.isIn fun c => c == '\r' || c == '\n')

/-- The user and the domain of a mailbox. -/
def address (m : Mailbox) : Glyphs :=
  let user :=
    if m.user.any (·.isIn fun c => c != '.' && endsAtom c) then inQuotes m.user
      else m.user
  if m.domain.isEmpty then user else user ++ .char '@' :: m.domain

/-- The text of a mailbox. -/
def text (m : Mailbox) : Glyphs :=
  let name := if m.name.any (·.isIn isSpecial) then inQuotes m.name else m.name
  if !name.isEmpty then name ++ .char ' ' :: .char '<' :: m.address ++
    [.char '>']
  else if m.address.isEmpty then [.char '<', .char '>']
  else m.address

end Mailbox

/-- A user with a domain, which may be empty. -/
structure Place where
  user : Except MailError Glyphs
  domain : Glyphs

/-- The mailbox at a place that belongs to a name. -/
def Place.mailbox (p : Place) (name : Except MailError Glyphs) :
    Except MailError Mailbox := do
  let m : Mailbox := ⟨← name, ← p.user, p.domain⟩
  if m.isBroken then throw .brokenAddress
  return m

/-- Reads a user with a domain, or a user alone. -/
def readPlace : Reader Place := do
  let user ← readUser
  if !(← Reader.skipIf '@') then return ⟨user, []⟩
  let domain ← readDomain
  if domain.isOpen then Reader.fail .openLiteral
  return ⟨user, domain.name⟩

/-- Reads the commas and the gaps before a route. -/
def readRouteStart : Reader (List Unit) := many do
  if ← Reader.skipIf ',' then return some ()
  else if ← Reader.nextIs opensGap then
    let _ ← readGap
    return some ()
  else return none

/-- Reads the further domains of a route, each behind a comma; between two
commas there may be none. -/
def readRouteDomains : Reader (List Unit) := many do
  if !(← Reader.skipIf ',') then return none
  if ← Reader.atEnd then return some ()
  let _ ← readGap?
  if ← Reader.atEnd then Reader.fail .endsEarly
  if ← Reader.skipIf '@' then
    let _ ← readDomain
  return some ()

/-- Reads a route: domains on the way to a mailbox, which do not count. -/
def readRoute : Reader Unit := do
  let _ ← readRouteStart
  Reader.expect '@'
  let _ ← readDomain
  let _ ← readRouteDomains
  Reader.expect ':'

/-- Reads a place in angle brackets, between which there may be nothing. -/
def readAngles : Reader Place := do
  let _ ← readGap?
  Reader.expect '<'
  if ← Reader.atEnd then Reader.fail .endsEarly
  if ← Reader.skipIf '>' then return ⟨.ok [], []⟩
  let place ← readPlace.orElse do
    readRoute
    readPlace
  let _ ← Reader.skipIf '>'
  let _ ← readGap?
  return place

/-- A phrase behind a gap. -/
def behindGap (gap : Glyphs) : List Part → Reader (List Part)
  | .word w :: rest => return .word { w with before := some gap } :: rest
  | _ => Reader.fail .pointBehindGap

/-- Reads a name, which may be missing, and a place in angle brackets. -/
def readNamed : Reader (Except MailError Mailbox) := do
  let gap ← readGap?
  if ← Reader.atEnd then Reader.mismatch
  if ← Reader.nextIs (· == '<') then return (← readAngles).mailbox (.ok [])
  if ← Reader.nextIs endsPhrase then Reader.mismatch
  let phrase ← readPhrase
  if ← Reader.atEnd then Reader.mismatch
  let phrase ← match gap with
    | some gap => behindGap gap phrase
    | none => pure phrase
  return (← readAngles).mailbox (nameOf phrase)

/-- Reads a mailbox. -/
def readMailbox : Reader (Except MailError Mailbox) :=
  readNamed.orElse do return (← readPlace).mailbox (.ok [])

end Notices.Email
