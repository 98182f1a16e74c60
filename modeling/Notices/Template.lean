import Notices.Channel

/-!
# Templates

A template belongs to one channel and one trigger.  Its parts are texts with
tags; a part that is left out is the empty text.

* `Template.read_toValue` says that the document of a template is read as that
  template.
-/

namespace Notices

/-- A template of a notice. -/
structure Template where
  id : String
  channel : Channel
  trigger : String
  name : String := ""
  enabled : Bool := true
  subject : Option String := none
  html : Option String := none
  text : Option String := none
  smsBody : Option String := none
  deriving DecidableEq, Repr, Inhabited

namespace Template

/-- Reads a template. -/
def read (otherwise : FaultKind) : Record.Reader Template := fun v =>
  (Record.fieldsOf otherwise v).andThen fun fields =>
    Template.mk <$> Record.required fields "template_id" Record.text
      <*> Record.required fields "type" Channel.read
      <*> Record.required fields "trigger" Record.text
      <*> Record.withDefault fields "name" "" Record.text
      <*> Record.withDefault fields "enabled" true Record.flag
      <*> Record.optionalText fields "email_subject"
      <*> Record.optionalText fields "email_html"
      <*> Record.optionalText fields "email_text"
      <*> Record.optionalText fields "sms_body"

/-- A template as a document. -/
def toValue (t : Template) : Value := .object [
  ("template_id", .string t.id),
  ("type", .string t.channel.word),
  ("trigger", .string t.trigger),
  ("name", .string t.name),
  ("enabled", .bool t.enabled),
  ("email_subject", Record.ofOption t.subject),
  ("email_html", Record.ofOption t.html),
  ("email_text", Record.ofOption t.text),
  ("sms_body", Record.ofOption t.smsBody)]

/-- The document of a template is read as that template. -/
theorem read_toValue (otherwise : FaultKind) (t : Template) :
    read otherwise t.toValue = .ok t := by
  simp [read, toValue, Record.fieldsOf, Checked.andThen, Record.required,
    Record.withDefault, Record.optionalText, Fields.get?]

end Template

end Notices
