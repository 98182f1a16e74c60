import Notices.Markup.Render
import Notices.Service.Program

/-!
# Deliveries

A rendered notice is handed to the client of its channel, and whatever becomes
of it the attempt is recorded.  A client that fails counts as a failed attempt.

The business records of an attempt are read off the data only when it is
recorded.  If their ids cannot be written, the delivery fails there: the client
has been called, and nothing is recorded.
-/

namespace Notices

/-- A notice that is ready to be sent, with the data that names its business
records. -/
structure Notice where
  template : Template
  recipient : String
  data : Fields

namespace Notice

/-- What became of a notice, by the answer of a client. -/
def outcomeOf : Except Failure Outcome → Outcome
  | .ok outcome => outcome
  | .error f => .failed (.raised f)

/-- Sends a notice by email and records the attempt. -/
def sendEmail (n : Notice) (settings : Settings) (subject html text : String) :
    Program Outcome := do
  let answer ← (Program.call (.email {
    recipient := n.recipient
    subject, html, text
    senderName := settings.senderName
    senderAddress := settings.senderAddress
    replyTo := settings.replyTo.filter (!·.isEmpty) })).attempt
  let outcome := outcomeOf answer
  let links ← Program.ofExcept (Links.ofContext n.data)
  let _ ← Program.call (.record {
    channel := .email
    recipient := n.recipient
    subject := some subject
    body := text
    templateId := n.template.id
    outcome
    links })
  return outcome

/-- Sends a notice by SMS and records the attempt. -/
def sendSms (n : Notice) (body : String) : Program Outcome := do
  let answer ← (Program.call (.sms n.recipient body)).attempt
  let outcome := outcomeOf answer
  let links ← Program.ofExcept (Links.ofContext n.data)
  let _ ← Program.call (.record {
    channel := .sms
    recipient := n.recipient
    subject := none
    body
    templateId := n.template.id
    outcome
    links })
  return outcome

end Notice

namespace Template

/-- A part of a template filled in with data, if that can be written; a part
that is left out is empty. -/
def fill (data : Fields) (part : Option String) : String :=
  Markup.renderText data (part.getD "")

/-- Fills a part of a template in with data. -/
def fill? (data : Fields) (part : Option String) : Program String :=
  .ofExcept (Markup.renderText? data (part.getD ""))

end Template

end Notices
