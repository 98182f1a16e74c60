import Notices.NoticeData

/-!
# Requests

What a caller asks for: a notice for a trigger with its data and options,
or a test of a template.
-/

namespace Notices

/-- Which channels are tried, and recipients that take the place of the
customer's. -/
structure SendOptions where
  emailOnly : Bool := false
  smsOnly : Bool := false
  forceEmail : Option String := none
  forcePhone : Option String := none
  deriving DecidableEq, Repr, Inhabited

namespace SendOptions

/-- Reads options. -/
def read (otherwise : FaultKind) : Record.Reader SendOptions := fun v =>
  (Record.fieldsOf otherwise v).andThen fun fields =>
    SendOptions.mk <$> Record.withDefault fields "email_only" false Record.flag
      <*> Record.withDefault fields "sms_only" false Record.flag
      <*> Record.optionalText fields "force_email"
      <*> Record.optionalText fields "force_phone"

/-- Options as a document. -/
def toValue (o : SendOptions) : Value := .object [
  ("email_only", .bool o.emailOnly),
  ("sms_only", .bool o.smsOnly),
  ("force_email", Record.ofOption o.forceEmail),
  ("force_phone", Record.ofOption o.forcePhone)]

end SendOptions

/-- A notice that is asked for. -/
structure DispatchRequest where
  trigger : String
  data : NoticeData := .empty
  options : SendOptions := {}
  deriving Repr, Inhabited

namespace DispatchRequest

/-- Reads a request. -/
def read (otherwise : FaultKind) : Record.Reader DispatchRequest := fun v =>
  (Record.fieldsOf otherwise v).andThen fun fields =>
    DispatchRequest.mk <$> Record.required fields "trigger" Record.text
      <*> Record.withDefault fields "data" .empty (NoticeData.read otherwise)
      <*> Record.withDefault fields "options" {} (SendOptions.read otherwise)

/-- A request as a document. -/
def toValue (r : DispatchRequest) : Value := .object [
  ("trigger", .string r.trigger),
  ("data", r.data.toValue),
  ("options", r.options.toValue)]

end DispatchRequest

/-- A test of a template that is asked for. -/
structure TestRequest where
  templateId : Option String := none
  recipient : Option String := none
  deriving DecidableEq, Repr, Inhabited

namespace TestRequest

/-- Reads a request. -/
def read (otherwise : FaultKind) : Record.Reader TestRequest := fun v =>
  (Record.fieldsOf otherwise v).andThen fun fields =>
    TestRequest.mk <$> Record.optionalText fields "template_id"
      <*> Record.optionalText fields "recipient"

/-- A request as a document. -/
def toValue (r : TestRequest) : Value := .object [
  ("template_id", Record.ofOption r.templateId),
  ("recipient", Record.ofOption r.recipient)]

end TestRequest

end Notices
