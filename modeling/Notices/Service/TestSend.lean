import Notices.Sample
import Notices.Service.Delivery

/-!
# Sending a test of a template

A test fills a template in with sample data and sends it to a recipient of the
caller's choice, whatever the switches of the template and the settings say.  A
test is marked as one, in the subject of an email or at the front of an SMS, and
it belongs to no business record.
-/

namespace Notices

namespace TestSend

/-- The mark of a test. -/
def mark : String := "[TEST] "

/-- The failure of a clock so late that the sample has no due date. -/
def outOfRange : Failure := ⟨"OverflowError", "date value out of range"⟩

/-- The sample data at the time of the test. -/
def sample : Program Fields := do
  let now ← Program.call .now
  match Sample.context? now with
  | some context => return context
  | none => .failed outOfRange

/-- Sends a template filled in with data as a test. -/
def send (template : Template) (recipient : String) (settings : Settings)
    (data : Fields) :
    Program Outcome := do
  let notice : Notice := { template, recipient, data := [] }
  match template.channel with
  | .email =>
    let subject ← Template.fill? data template.subject
    let html ← Template.fill? data template.html
    let text ← Template.fill? data template.text
    notice.sendEmail settings (mark ++ subject) html text
  | .sms =>
    let body ← Template.fill? data template.smsBody
    notice.sendSms (mark ++ body)

end TestSend

/-- Sends a test of the template with an id. -/
def sendTest (templateId recipient : String) : Program Outcome := do
  match ← Program.call (.templateById templateId) with
  | none => return .failed .templateNotFound
  | some template =>
    match ← Program.call .settings with
    | none => return .failed .noSettingsForTest
    | some settings =>
        TestSend.send template recipient settings (← TestSend.sample)

end Notices
