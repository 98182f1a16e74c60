import Notices.LogEntry
import Notices.SendError
import Notices.Value.Spelling

/-!
# Attempts

An attempt is what the log keeps of one call of a channel's client: to whom
it went, what was said, by which template, what became of it, and which
business records it belongs to.

* `Attempt.stamp` makes it an entry of the log, at a time and with an id.
  The entry of a delivered notice is sent at that time, and the entry of
  any other is never sent.
-/

namespace Notices

/-- The business records that an attempt belongs to. -/
structure Links where
  customer : Option String := none
  invoice : Option String := none
  shipment : Option String := none
  release : Option String := none
  deriving DecidableEq, Repr, Inhabited

namespace Links

/-- The text of a field that is there and not null, if it can be written. -/
def textOf (context : Fields) (name : String) : Option String :=
  (context.present? name).map fun v => String.ofList v.spell

/-- Writes a field that is there and not null. -/
def write (context : Fields) (name : String) : Except Failure (Option String) :=
  match context.present? name with
  | some v => v.write.map fun text => some (String.ofList text)
  | none => .ok none

/-- The records that the data of a notice names, if all their ids can be
written. -/
def ofContext (context : Fields) : Except Failure Links := do
  return {
    customer := ← write context "customer_id"
    invoice := ← write context "invoice_id"
    shipment := ← write context "shipment_id"
    release := ← write context "release_id" }

end Links

/-- An attempt to send a notice. -/
structure Attempt where
  channel : Channel
  recipient : String
  subject : Option String
  body : String
  templateId : String
  outcome : Outcome
  links : Links
  deriving DecidableEq, Repr

/-- The entry of the log for an attempt. -/
def Attempt.stamp (a : Attempt) (id : String) (now : Timestamp) : LogEntry where
  id
  templateId := some a.templateId
  customerId := a.links.customer
  recipient := a.recipient
  channel := a.channel
  subject := a.subject
  body := a.body
  status := if a.outcome.isDelivered then .sent else .failed
  error := a.outcome.error
  externalId := a.outcome.messageId
  invoiceId := a.links.invoice
  shipmentId := a.links.shipment
  releaseId := a.links.release
  createdAt := now
  sentAt := if a.outcome.isDelivered then some now else none

end Notices
