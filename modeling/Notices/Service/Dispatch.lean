import Notices.Request
import Notices.Service.Delivery

/-!
# Dispatching a notice

A trigger is dispatched to the channels that are switched on.  The gates are, in
this order: there are settings; the trigger is allowed, which a trigger without
a switch always is; the channel is neither switched off nor excluded by the
options; there is an enabled template for it; there is a recipient.

The channels do not depend on each other: what fails on one of them is the
outcome of that channel alone.  That can be the recipient or a value for a
placeholder that cannot be written, and then the client is not called.
-/

namespace Notices

/-- The outcomes of a dispatch, one for each channel that was tried. -/
structure Dispatched where
  email : Option Outcome := none
  sms : Option Outcome := none
  deriving DecidableEq, Repr

namespace Dispatched

/-- The same failure on both channels. -/
def bothFailed (cause : SendError) : Dispatched :=
  { email := some (.failed cause), sms := some (.failed cause) }

/-- The outcomes as they are reported. -/
def toResult (d : Dispatched) : DispatchResult :=
  { email := d.email.map Outcome.toRecord, sms := d.sms.map Outcome.toRecord }

end Dispatched

namespace Dispatch

/-- The recipient of a notice: the one that the options force, and else the one
that the data names, which may be a number. -/
def recipient? (forced : Option String) (context : Fields) (name : String) :
    Option Value :=
  match forced.filter (!·.isEmpty) with
  | some s => some (.string s)
  | none => (Fields.get? context name).filter Value.isTruthy

/-- Writes the recipient of a notice. -/
def address (recipient : Value) : Program String :=
  .ofExcept (recipient.write.map String.ofList)

/-- Whether a trigger may send.  One without a switch may, and it is
reported. -/
def isAllowed (settings : Settings) (trigger : String) : Program Bool :=
  match Trigger.ofWord? trigger with
  | some t => return settings.allows t
  | none => do
    let _ ← (Program.call (.unknownTrigger trigger)).attempt
    return true

/-- The enabled template of a trigger on a channel. -/
def usableTemplate (channel : Channel) (trigger : String) :
    Program (Option Template) := do
  let template ← Program.call (.template channel trigger)
  return Option.filter (·.enabled) template

/-- Sends a notice by email. -/
def byEmail (trigger : String) (context : Fields) (settings : Settings)
    (forced : Option String) :
    Program Outcome := do
  match ← usableTemplate .email trigger with
  | none => return .failed .templateUnavailable
  | some template =>
    match recipient? forced context "customer_email" with
    | none => return .failed .noEmailAddress
    | some recipient =>
      let recipient ← address recipient
      let subject ← Template.fill? context template.subject
      let html ← Template.fill? context template.html
      let text ← Template.fill? context template.text
      Notice.sendEmail { template, recipient, data := context } settings
        subject html text

/-- Sends a notice by SMS. -/
def bySms (trigger : String) (context : Fields) (forced : Option String) :
    Program Outcome := do
  match ← usableTemplate .sms trigger with
  | none => return .failed .templateUnavailable
  | some template =>
    match recipient? forced context "customer_phone" with
    | none => return .failed .noPhoneNumber
    | some recipient =>
      let recipient ← address recipient
      let body ← Template.fill? context template.smsBody
      Notice.sendSms { template, recipient, data := context } body

/-- Tries a channel if it is wanted; a failure is the outcome of the channel. -/
def branch (wanted : Bool) (send : Program Outcome) :
    Program (Option Outcome) :=
  if wanted then
    do return some (Notice.outcomeOf (← send.attempt)) else return none

/-- Whether the email channel is tried. -/
def wantsEmail (settings : Settings) (options : SendOptions) : Bool :=
  !options.smsOnly && settings.emailEnabled

/-- Whether the SMS channel is tried. -/
def wantsSms (settings : Settings) (options : SendOptions) : Bool :=
  !options.emailOnly && settings.smsEnabled

/-- The email branch of a dispatch. -/
def emailBranch (trigger : String) (context : Fields) (settings : Settings)
    (options : SendOptions) : Program (Option Outcome) :=
  branch (wantsEmail settings options)
    (byEmail trigger context settings options.forceEmail)

/-- The SMS branch of a dispatch. -/
def smsBranch (trigger : String) (context : Fields) (settings : Settings)
    (options : SendOptions) : Program (Option Outcome) :=
  branch (wantsSms settings options) (bySms trigger context options.forcePhone)

end Dispatch

/-- Dispatches a notice for a trigger. -/
def dispatch (trigger : String) (data : NoticeData) (options : SendOptions) :
    Program Dispatched := do
  match ← Program.call .settings with
  | none => return .bothFailed .noSettings
  | some settings =>
    if ← Dispatch.isAllowed settings trigger then
      let email ← Dispatch.emailBranch trigger data.context settings options
      let sms ← Dispatch.smsBranch trigger data.context settings options
      return { email, sms }
    else return .bothFailed .triggerDisabled

end Notices
