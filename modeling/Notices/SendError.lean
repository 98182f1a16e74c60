import Notices.Email.Message
import Notices.Failure
import Notices.Json.Reader
import Notices.Outcome
import Notices.Url.Address

/-!
# Why a notice is not sent

`SendError` has all the causes for which an attempt fails, and
`SendError.message` the words in which each of them is reported.  `Outcome` is
what became of an attempt.
-/

namespace Notices

/-- The cause of a failed attempt. -/
inductive SendError where
  | emailNotConfigured
  | smsNotConfigured
  | badMail (e : Email.MailError)
  | badNumber
  | badUrl (p : Url.AddressProblem)
  | relativeUrl (url : String)
  | raised (f : Failure)
  | replyNotJson (r : Json.Refusal)
  | refused (reason : String)
  | refusedWithStatus (status : Int)
  | noSettings
  | noSettingsForTest
  | triggerDisabled
  | templateUnavailable
  | templateNotFound
  | noEmailAddress
  | noPhoneNumber
  deriving DecidableEq, Repr

/-- The words in which a cause is reported. -/
def SendError.message : SendError → String
  | .emailNotConfigured => "SMTP not configured"
  | .smsNotConfigured => "Twilio not configured"
  | .badMail e => e.message
  | .badNumber => "Invalid phone number"
  | .badUrl p => p.message
  | .relativeUrl url =>
      s!"unknown url type: {String.ofList (Text.quoted url.toList)}"
  | .raised f => f.message
  | .replyNotJson r => r.message
  | .refused reason => reason
  | .refusedWithStatus status =>
      s!"Twilio HTTP {String.ofList (intText status)}"
  | .noSettings => "No settings"
  | .noSettingsForTest => "No settings found"
  | .triggerDisabled => "Trigger disabled"
  | .templateUnavailable => "Template not found or disabled"
  | .templateNotFound => "Template not found"
  | .noEmailAddress => "No email address"
  | .noPhoneNumber => "No phone number"

/-- What became of an attempt to send a notice. -/
inductive Outcome where
  | delivered (messageId : Option String)
  | failed (cause : SendError)
  deriving DecidableEq, Repr

namespace Outcome

/-- Whether the notice was delivered. -/
def isDelivered : Outcome → Bool
  | .delivered _ => true
  | .failed _ => false

/-- The id that the provider gave to the message. -/
def messageId : Outcome → Option String
  | .delivered id => id
  | .failed _ => none

/-- The words for the cause of a failure. -/
def error : Outcome → Option String
  | .delivered _ => none
  | .failed cause => some cause.message

/-- An outcome as it is reported. -/
def toRecord (o : Outcome) : OutcomeRecord :=
  { success := o.isDelivered, messageId := o.messageId, error := o.error }

end Outcome

end Notices
