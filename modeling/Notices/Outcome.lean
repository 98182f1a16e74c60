import Notices.Record.Field

/-!
# Outcomes

An attempt to send a notice is delivered or it failed.
`OutcomeRecord` is the outcome as it is reported, and `DispatchResult`
has one for each channel that was tried.
-/

namespace Notices

/-- An outcome as it is reported. -/
structure OutcomeRecord where
  success : Bool
  messageId : Option String := none
  error : Option String := none
  deriving DecidableEq, Repr, Inhabited

namespace OutcomeRecord

/-- Reads an outcome. -/
def read (otherwise : FaultKind) : Record.Reader OutcomeRecord := fun v =>
  (Record.fieldsOf otherwise v).andThen fun fields =>
    OutcomeRecord.mk <$> Record.required fields "success" Record.flag
      <*> Record.optionalText fields "message_id"
      <*> Record.optionalText fields "error"

/-- An outcome as a document. -/
def toValue (o : OutcomeRecord) : Value := .object [
  ("success", .bool o.success),
  ("message_id", Record.ofOption o.messageId),
  ("error", Record.ofOption o.error)]

/-- The report of a delivery. -/
def delivered (messageId : Option String) : OutcomeRecord :=
  { success := true, messageId }

/-- The report of a failure. -/
def failed (error : String) : OutcomeRecord :=
  { success := false, error := some error }

end OutcomeRecord

/-- The outcomes of a notice, one for each channel that was tried. -/
structure DispatchResult where
  email : Option OutcomeRecord := none
  sms : Option OutcomeRecord := none
  deriving DecidableEq, Repr, Inhabited

namespace DispatchResult

/-- Reads the outcomes of a notice. -/
def read (otherwise : FaultKind) : Record.Reader DispatchResult := fun v =>
  (Record.fieldsOf otherwise v).andThen fun fields =>
    DispatchResult.mk
      <$> Record.withDefault fields "email" none
        (Record.nullable (OutcomeRecord.read otherwise))
      <*> Record.withDefault fields "sms" none
        (Record.nullable (OutcomeRecord.read otherwise))

/-- The outcome of a channel, or null. -/
def ofOutcome : Option OutcomeRecord → Value
  | some o => o.toValue
  | none => .null

/-- The outcomes of a notice as a document. -/
def toValue (r : DispatchResult) : Value :=
  .object [("email", ofOutcome r.email), ("sms", ofOutcome r.sms)]

/-- The same failure on both channels. -/
def bothFailed (error : String) : DispatchResult :=
  { email := some (.failed error), sms := some (.failed error) }

end DispatchResult

end Notices
