import Notices.Email.Mailbox
import Notices.Text.Parts

/-!
# Address headers

The sender, the recipients and the reply address of a mail are lists of
addresses with commas between them.  An address is a mailbox, or a group of
mailboxes that has a name.  A header is read and printed again, so that it has
one form whatever blanks, quotes and comments it was written with.

* `readAddresses` reads a header.  What is no address is the mailbox that has
  nothing, and empty places between commas do not count.
* `Address.text` prints an address, and `addressText` the whole header.
-/

namespace Notices.Email

/-! ## Printing -/

/-- An address: a mailbox, or the mailboxes of a group. -/
inductive Address where
  | mailbox (m : Mailbox)
  | group (name : Glyphs) (members : List Mailbox)
  deriving DecidableEq, Repr

/-- A comma and a space. -/
def comma : Glyphs := ofText ", ".toList

/-- The text of an address. -/
def Address.text : Address → Glyphs
  | .mailbox m => m.text
  | .group name members =>
    let shown := if name.any (·.isIn isSpecial) then inQuotes name else name
    let inside := Text.join comma (members.map Mailbox.text)
    shown ++ .char ':' ::
      (if inside.isEmpty then [] else .char ' ' :: inside) ++ [.char ';']

/-! ## Reading -/

/-- Reads what is no mailbox up to a character of a class. -/
def skipTo (ends : Char → Bool) : Reader (List Unit) := many do
  if (← Reader.atEnd) || (← Reader.nextIs ends) then return none
  else if ← Reader.nextIs endsPhrase then Reader.skip
  else
    let _ ← readPhrase
  return some ()

/-- Reads a place of a list that holds no item: nothing up to a character of a
class, or else what is taken for an item without a meaning. -/
def readStray {α : Type} (stray : α) (ends : Char → Bool) : Reader (Option α) :=
  do
  let isEmpty := (← Reader.nextIs ends)
  let _ ← readGap?
  if isEmpty || (← Reader.atEnd) || (← Reader.nextIs ends) then return none
  let _ ← skipTo ends
  return some stray

/-- The mailboxes of a group. -/
abbrev Members := List (Except MailError Mailbox)

/-- Reads the mailboxes of a group.  A mailbox with something else behind it
counts. -/
def readMembers : Reader Members := do
  let ends (c : Char) : Bool := c == ',' || c == ';'
  let items ← many do
    if (← Reader.atEnd) || (← Reader.nextIs (· == ';')) then return none
    let item ← (some <$> readMailbox).orElse (readStray (.ok .nobody) ends)
    let _ ← skipTo ends
    let _ ← Reader.skipIf ','
    return some item
  return items.filterMap id

/-- A group as it is read. -/
structure Group where
  name : Except MailError Glyphs
  members : Members

/-- Reads a group.  It may end with the header. -/
def readGroup : Reader Group := do
  let phrase ← readPhrase
  Reader.expect ':'
  let name := nameOf phrase
  if ← Reader.skipIf ';' then return ⟨name, []⟩
  let _ ← readGap?
  let members ← readMembers
  let _ ← Reader.skipIf ';'
  let _ ← readGap?
  return ⟨name, members⟩

/-- What a group says.  Nothing can follow it. -/
def Group.address (g : Group) (isFollowed : Bool) : Except MailError Address :=
  do
  let name ← g.name
  if isFollowed then throw .textBehindGroup
  return .group name (← g.members.mapM id)

/-- Reads an address, which tells what it says when it is known
whether anything follows it. -/
def readAddress : Reader (Bool → Except MailError Address) :=
  (Group.address <$> readGroup).orElse
    ((fun mailbox _ => .mailbox <$> mailbox) <$> readMailbox)

/-- Reads the addresses of a header up to its end. -/
def readAddresses : Reader (List (Except MailError Address)) := do
  let ends (c : Char) : Bool := c == ','
  let items ← many do
    if ← Reader.atEnd then return none
    let item ← (some <$> readAddress).orElse
        (readStray (fun _ => .ok (.mailbox .nobody)) ends)
    let isFollowed := !(← Reader.atEnd) && !(← Reader.nextIs ends)
    let _ ← skipTo ends
    let _ ← Reader.skipIf ','
    return some (item.map (· isFollowed))
  return items.filterMap id

/-- The addresses of a header.  Every header can be read up to its end, so that
the reader does not stop with a mismatch. -/
def addressesOf (s : Glyphs) : Except MailError (List Address) :=
  match readAddresses s with
  | .ok (addresses, _) => addresses.mapM id
  | .error (.error e) => .error e
  | .error .mismatch => .ok []

/-- The text of the addresses of a header. -/
def addressText (s : Glyphs) : Except MailError Glyphs := do
  return Text.join comma ((← addressesOf s).map Address.text)

end Notices.Email
