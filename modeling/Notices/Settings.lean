import Notices.Record.Field

/-!
# Settings

The settings say which channels are switched on, who the sender of an email is,
and which triggers may send at all.  All of them have a default.

* `Trigger.ofWord?_eq_some_iff` says which words are triggers with a switch.
* `Settings.read_toValue` says that the document of settings is read as those
  settings.
-/

namespace Notices

/-- The events of the shop that have a switch in the settings. -/
inductive Trigger where
  | invoiceReady
  | orderShipped
  | orderDelivered
  | newRelease
  deriving DecidableEq, Repr

/-- The word for a trigger. -/
def Trigger.word : Trigger → String
  | .invoiceReady => "invoice_ready"
  | .orderShipped => "order_shipped"
  | .orderDelivered => "order_delivered"
  | .newRelease => "new_release"

/-- The trigger that a word names.  Other words are events that have no
switch. -/
def Trigger.ofWord? (s : String) : Option Trigger :=
  if s = "invoice_ready" then some .invoiceReady
  else if s = "order_shipped" then some .orderShipped
  else if s = "order_delivered" then some .orderDelivered
  else if s = "new_release" then some .newRelease
  else none

/-- Exactly the four words name a trigger, and each the one whose word it is. -/
theorem Trigger.ofWord?_eq_some_iff {s : String} {t : Trigger} :
    Trigger.ofWord? s = some t ↔ s = t.word := by
  cases t <;> grind [Trigger.ofWord?, Trigger.word]

/-- The switches and the sender of the notices. -/
structure Settings where
  emailEnabled : Bool := false
  senderName : String := ""
  senderAddress : String := ""
  replyTo : Option String := none
  smsEnabled : Bool := false
  smsSenderName : String := ""
  sendInvoices : Bool := true
  sendShipping : Bool := true
  sendDelivery : Bool := true
  sendReleases : Bool := true
  deriving DecidableEq, Repr, Inhabited

namespace Settings

/-- The switch of a trigger. -/
def allows (s : Settings) : Trigger → Bool
  | .invoiceReady => s.sendInvoices
  | .orderShipped => s.sendShipping
  | .orderDelivered => s.sendDelivery
  | .newRelease => s.sendReleases

/-- Reads settings. -/
def read (otherwise : FaultKind) : Record.Reader Settings := fun v =>
  (Record.fieldsOf otherwise v).andThen fun fields =>
    Settings.mk <$> Record.withDefault fields "email_enabled" false Record.flag
      <*> Record.withDefault fields "email_from_name" "" Record.text
      <*> Record.withDefault fields "email_from_address" "" Record.text
      <*> Record.optionalText fields "email_reply_to"
      <*> Record.withDefault fields "sms_enabled" false Record.flag
      <*> Record.withDefault fields "sms_from_name" "" Record.text
      <*> Record.withDefault fields "send_invoice_notifications" true
        Record.flag
      <*> Record.withDefault fields "send_shipping_notifications" true
        Record.flag
      <*> Record.withDefault fields "send_delivery_notifications" true
        Record.flag
      <*> Record.withDefault fields "send_new_release_notifications" true
        Record.flag

/-- Settings as a document. -/
def toValue (s : Settings) : Value := .object [
  ("email_enabled", .bool s.emailEnabled),
  ("email_from_name", .string s.senderName),
  ("email_from_address", .string s.senderAddress),
  ("email_reply_to", Record.ofOption s.replyTo),
  ("sms_enabled", .bool s.smsEnabled),
  ("sms_from_name", .string s.smsSenderName),
  ("send_invoice_notifications", .bool s.sendInvoices),
  ("send_shipping_notifications", .bool s.sendShipping),
  ("send_delivery_notifications", .bool s.sendDelivery),
  ("send_new_release_notifications", .bool s.sendReleases)]

/-- The document of settings is read as those settings. -/
theorem read_toValue (otherwise : FaultKind) (s : Settings) :
    read otherwise s.toValue = .ok s := by
  simp [read, toValue, Record.fieldsOf, Checked.andThen, Record.withDefault,
    Record.optionalText, Fields.get?]

end Settings

end Notices
