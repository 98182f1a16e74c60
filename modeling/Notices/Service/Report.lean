import Notices.Record.Field
import Notices.Service.Program

/-!
# Status and recent entries

For each channel the status report says whether its client is configured, which
does not depend on the store, and whether the settings switch it on; without
settings it is off.
-/

namespace Notices

/-! ## The report -/

/-- The state of a channel. -/
structure ChannelStatus where
  configured : Bool
  enabled : Bool
  deriving DecidableEq, Repr, Inhabited

namespace ChannelStatus

/-- Reads the state of a channel. -/
def read (otherwise : FaultKind) : Record.Reader ChannelStatus := fun v =>
  (Record.fieldsOf otherwise v).andThen fun fields =>
    ChannelStatus.mk <$> Record.required fields "configured" Record.flag
      <*> Record.required fields "enabled" Record.flag

/-- The state of a channel as a document. -/
def toValue (s : ChannelStatus) : Value :=
  .object [("configured", .bool s.configured), ("enabled", .bool s.enabled)]

end ChannelStatus

/-- The state of both channels. -/
structure StatusReport where
  email : ChannelStatus
  sms : ChannelStatus
  deriving DecidableEq, Repr, Inhabited

namespace StatusReport

/-- Reads a report. -/
def read (otherwise : FaultKind) : Record.Reader StatusReport := fun v =>
  (Record.fieldsOf otherwise v).andThen fun fields =>
    StatusReport.mk <$>
      Record.required fields "email" (ChannelStatus.read otherwise)
      <*> Record.required fields "sms" (ChannelStatus.read otherwise)

/-- A report as a document. -/
def toValue (r : StatusReport) : Value :=
  .object [("email", r.email.toValue), ("sms", r.sms.toValue)]

end StatusReport

/-! ## The programs -/

/-- The status of both channels, of which it is known whether they are
configured. -/
def status (emailConfigured smsConfigured : Bool) : Program StatusReport := do
  let settings ← Program.call .settings
  let enabled (switch : Settings → Bool) : Bool :=
    (Option.map switch settings).getD false
  return {
    email :=
      { configured := emailConfigured, enabled := enabled (·.emailEnabled) }
    sms := { configured := smsConfigured, enabled := enabled (·.smsEnabled) } }

/-- The newest entries of the log, as many as the limit allows. -/
def recentLog (limit : Nat) : Program (List LogEntry) :=
  Program.call (.recent limit)

end Notices
