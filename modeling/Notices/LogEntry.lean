import Notices.Channel

/-!
# The log

Every attempt to send a notice leaves one entry in the log.

* `LogEntry.read_toValue` says that the document of an entry is read as that
  entry.
-/

namespace Notices

/-- How far a notice has come. -/
inductive DeliveryStatus where
  | pending
  | sent
  | failed
  deriving DecidableEq, Repr, Inhabited

namespace DeliveryStatus

/-- The word for a status. -/
def word : DeliveryStatus → String
  | .pending => "pending"
  | .sent => "sent"
  | .failed => "failed"

/-- The status of a word. -/
def ofWord? (s : String) : Option DeliveryStatus :=
  if s = "pending" then some .pending
  else if s = "sent" then some .sent
  else if s = "failed" then some .failed
  else none

/-- Exactly the three words name a status, and each the one whose word it is. -/
theorem ofWord?_eq_some_iff {s : String} {d : DeliveryStatus} :
    ofWord? s = some d ↔ s = d.word := by
  cases d <;> grind [ofWord?, word]

/-- Reads a status. -/
def read : Record.Reader DeliveryStatus := Record.oneOf ofWord?

/-- The word for a status is read as that status. -/
@[simp] theorem read_word (d : DeliveryStatus) :
    read (.string d.word) = .ok d := by
  cases d <;> rfl

end DeliveryStatus

/-- An entry of the log. -/
structure LogEntry where
  id : String
  templateId : Option String := none
  customerId : Option String := none
  recipient : String
  channel : Channel
  subject : Option String := none
  body : String
  status : DeliveryStatus := .pending
  error : Option String := none
  externalId : Option String := none
  invoiceId : Option String := none
  shipmentId : Option String := none
  releaseId : Option String := none
  createdAt : Timestamp
  sentAt : Option Timestamp := none
  deriving DecidableEq, Repr, Inhabited

namespace LogEntry

/-- Reads an entry. -/
def read (otherwise : FaultKind) : Record.Reader LogEntry := fun v =>
  (Record.fieldsOf otherwise v).andThen fun fields =>
    LogEntry.mk <$> Record.required fields "log_id" Record.text
      <*> Record.optionalText fields "template_id"
      <*> Record.optionalText fields "customer_id"
      <*> Record.required fields "recipient" Record.text
      <*> Record.required fields "type" Channel.read
      <*> Record.optionalText fields "subject"
      <*> Record.required fields "body" Record.text
      <*> Record.withDefault fields "status" .pending DeliveryStatus.read
      <*> Record.optionalText fields "error_message"
      <*> Record.optionalText fields "external_id"
      <*> Record.optionalText fields "invoice_id"
      <*> Record.optionalText fields "shipment_id"
      <*> Record.optionalText fields "release_id"
      <*> Record.required fields "created_at" Record.time
      <*> Record.withDefault fields "sent_at" none (Record.nullable Record.time)

/-- The time of delivery, or null. -/
def ofTime : Option Timestamp → Value
  | some t => .time t
  | none => .null

/-- The fields of the document of an entry. -/
def toFields (e : LogEntry) : Fields := [
  ("log_id", .string e.id),
  ("template_id", Record.ofOption e.templateId),
  ("customer_id", Record.ofOption e.customerId),
  ("recipient", .string e.recipient),
  ("type", .string e.channel.word),
  ("subject", Record.ofOption e.subject),
  ("body", .string e.body),
  ("status", .string e.status.word),
  ("error_message", Record.ofOption e.error),
  ("external_id", Record.ofOption e.externalId),
  ("invoice_id", Record.ofOption e.invoiceId),
  ("shipment_id", Record.ofOption e.shipmentId),
  ("release_id", Record.ofOption e.releaseId),
  ("created_at", .time e.createdAt),
  ("sent_at", ofTime e.sentAt)]

/-- An entry as a document. -/
def toValue (e : LogEntry) : Value := .object e.toFields

/-- A time of delivery is read as it was written. -/
@[simp] theorem nullable_time_ofTime (o : Option Timestamp) :
    Record.nullable Record.time (ofTime o) = .ok o := by
  cases o <;> rfl

/-- The document of an entry is read as that entry. -/
theorem read_toValue (otherwise : FaultKind) (e : LogEntry) :
    read otherwise e.toValue = .ok e := by
  simp [read, toValue, toFields, Record.fieldsOf, Checked.andThen,
    Record.required, Record.withDefault, Record.optionalText, Fields.get?]

/-- The entry for an attempt at a time, with its details given as fields. -/
def ofDetails (id : String) (now : Timestamp) (channel : Channel)
    (success : Bool) (details : Fields) : Checked LogEntry :=
  (fun templateId customerId recipient subject body error externalId invoiceId
      shipmentId releaseId =>
    { id, templateId, customerId, recipient, channel, subject, body
      status := if success then .sent else .failed
      error, externalId, invoiceId, shipmentId, releaseId
      createdAt := now
      sentAt := if success then some now else none })
    <$> Record.optionalText details "template_id"
    <*> Record.optionalText details "customer_id"
    <*> Record.required details "recipient" Record.text
    <*> Record.optionalText details "subject"
    <*> Record.required details "body" Record.text
    <*> Record.optionalText details "error_message"
    <*> Record.optionalText details "external_id"
    <*> Record.optionalText details "invoice_id"
    <*> Record.optionalText details "shipment_id"
    <*> Record.optionalText details "release_id"

end LogEntry

end Notices
