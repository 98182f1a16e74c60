import Notices.Email.Client
import Notices.Service.Program
import Notices.Sms.Client
import Notices.World.Store

/-!
# The world of the service

The world answers what the service asks for: it holds the store, the
accounts at the providers and the providers themselves, and any of them may
fail.  `World` is what stays the same while a program runs, and `State` is
what changes: the log grows, numbers are used up, and what leaves the
service is put down as an event.

* `World.answer` answers one request.  The stores answer for themselves when the
  database fails: a read finds nothing, and a write says that it failed.
* `World.run_bind` and `World.run_attempt` say how sequences and caught failures
  run.
-/

namespace Notices

/-- The parts of the service that can be made to fail as a whole. -/
inductive Collaborator where
  | settings
  | template
  | templateById
  | log
  | email
  | sms
  deriving DecidableEq, Repr

/-- What happens to a trigger that has no switch: nothing, it is put down, or it
is put down and then something fails. -/
inductive Hook where
  | absent
  | records
  | fails (f : Failure)
  deriving DecidableEq, Repr

/-- Which accesses to the database fail.  Writes to the log are counted. -/
structure Outage where
  settings : Bool := false
  templates : Bool := false
  readLog : Bool := false
  writeLog : Nat → Bool := fun _ => false

/-- An outage of the whole database. -/
def Outage.total : Outage :=
  { settings := true, templates := true, readLog := true,
    writeLog := fun _ => true }

/-- What stays the same while a program runs.  The replies of the providers may
depend on how many calls came before. -/
structure World where
  settings : Option Fields
  templates : List Fields
  outage : Outage
  faults : Collaborator → Option Failure
  email : Email.Account
  sms : Sms.Account
  mailServer : Nat → Email.Submission → Email.Reply
  smsProvider : Nat → Sms.Request → Sms.Reply
  hook : Hook
  now : Timestamp
  logIds : Nat → String

/-- What leaves the service. -/
inductive Event where
  | submitted (s : Email.Submission)
  | requested (r : Sms.Request)
  | logged (document : Fields)
  | unknownTrigger (trigger : String)

/-- What changes while a program runs. -/
structure State where
  log : List Fields := []
  mailNumber : Nat := 0
  submissions : Nat := 0
  requests : Nat := 0
  writes : Nat := 0
  events : List Event := []

namespace State

/-- Puts an event down, behind the earlier ones. -/
def put (s : State) (e : Event) : State := { s with events := s.events ++ [e] }

end State

namespace World

/-- The store in a state. -/
def store (w : World) (s : State) : Store :=
  { settings := w.settings, templates := w.templates, log := s.log }

/-- The failure of a reply that is not what it should be. -/
def wrongReply (faults : List Fault) : Failure :=
  ⟨"ValidationError", ", ".intercalate (faults.map fun f => f.kind.code)⟩

/-- Sends a mail by the account. -/
def sendEmail (w : World) (mail : Email.Mail) (s : State) : Outcome × State :=
  let number := s.mailNumber + 1
  let sent := w.email.send (w.mailServer s.submissions) number mail
  let s :=
    if w.email.usesNumber mail then { s with mailNumber := number } else s
  match sent.submission with
  | some submission =>
    (sent.outcome,
      { s with submissions := s.submissions + 1 }.put (.submitted submission))
  | none => (sent.outcome, s)

/-- Sends a text message by the account. -/
def sendSms (w : World) (recipient body : String) (s : State) :
    Except Failure Outcome × State :=
  let sent := w.sms.send (w.smsProvider s.requests) recipient body
  let outcome : Except Failure Outcome :=
    match sent.outcome with
    | .ok outcome => .ok outcome
    | .failed faults => .error (wrongReply faults)
  match sent.request with
  | some request =>
      (outcome, { s with requests := s.requests + 1 }.put (.requested request))
  | none => (outcome, s)

/-- Records an attempt in the log, unless the write fails. -/
def record (w : World) (attempt : Attempt) (s : State) : Bool × State :=
  let document := (attempt.stamp (w.logIds s.writes) w.now).toFields
  let failing := w.outage.writeLog s.writes
  let s := { s with writes := s.writes + 1 }
  if failing then (false, s)
  else (true, { s with log := s.log ++ [document] }.put (.logged document))

/-- Reports a trigger that has no switch. -/
def reportUnknown (w : World) (trigger : String) (s : State) :
    Except Failure Unit × State :=
  match w.hook with
  | .absent => (.ok (), s)
  | .records => (.ok (), s.put (.unknownTrigger trigger))
  | .fails f => (.error f, s.put (.unknownTrigger trigger))

/-- The collaborator that a request goes to, if it is one that can be made to
fail. -/
def collaborator? : Request → Option Collaborator
  | .settings => some .settings
  | .template _ _ => some .template
  | .templateById _ => some .templateById
  | .email _ => some .email
  | .sms _ _ => some .sms
  | .record _ => some .log
  | .unknownTrigger _ => none
  | .recent _ => none
  | .now => none

/-- What is read of the store, or nothing if the access fails. -/
def unlessOut {α : Type} (isOut : Bool) (found : Option α) : Option α :=
  if isOut then none else found

/-- Answers a request by a collaborator that works. -/
def serve (w : World) (s : State) :
    (r : Request) → Except Failure r.Answer × State
  | .settings => (.ok (unlessOut w.outage.settings (w.store s).settings?), s)
  | .template channel trigger =>
    (.ok (unlessOut w.outage.templates ((w.store s).template? channel trigger)),
      s)
  | .templateById id =>
      (.ok (unlessOut w.outage.templates ((w.store s).templateById? id)), s)
  | .email mail => let (outcome, s) := w.sendEmail mail s; (.ok outcome, s)
  | .sms recipient body => w.sendSms recipient body s
  | .record attempt => let (written, s) := w.record attempt s; (.ok written, s)
  | .unknownTrigger trigger => w.reportUnknown trigger s
  | .recent limit =>
      (.ok (if w.outage.readLog then [] else (w.store s).recent limit), s)
  | .now => (.ok w.now, s)

/-- Answers a request. -/
def answer (w : World) (s : State) (r : Request) :
    Except Failure r.Answer × State :=
  match (collaborator? r).bind w.faults with
  | some f => (.error f, s)
  | none => w.serve s r

/-- Runs a program to its end. -/
def run {α : Type} (w : World) : Program α → State → Except Failure α × State
  | .done a, s => (.ok a, s)
  | .failed f, s => (.error f, s)
  | .ask r next, s => let (a, s) := w.answer s r; w.run (next a) s

variable {α β : Type}

/-- A request alone is answered, and nothing else happens. -/
@[simp] theorem run_call (w : World) (r : Request) (s : State) :
    w.run (Program.call r) s = w.answer s r := by
  unfold Program.call
  cases h : w.answer s r with
  | mk answer after => cases answer <;> simp [run, h]

/-- A sequence runs the second program on what the first one left, unless
the first one failed. -/
theorem run_bind (w : World) (p : Program α) (k : α → Program β) (s : State) :
    w.run (p >>= k) s =
      match w.run p s with
      | (.ok a, after) => w.run (k a) after
      | (.error f, after) => (.error f, after) := by
  show w.run (p.bind k) s = _
  induction p generalizing s with
  | done a => rfl
  | failed f => rfl
  | ask r next ih => exact ih (w.answer s r).1 (w.answer s r).2

/-- A program whose value is taken further does the same and ends
with the further value. -/
theorem run_map (w : World) (p : Program α) (f : α → β) (s : State) :
    w.run (f <$> p) s = ((w.run p s).1.map f, (w.run p s).2) := by
  rw [map_eq_pure_bind, run_bind]
  rcases w.run p s with ⟨result, after⟩
  cases result <;> rfl

/-- A program whose failure is caught does the same and ends with what
it came to as a value. -/
theorem run_attempt (w : World) (p : Program α) (s : State) :
    w.run p.attempt s = (.ok (w.run p s).1, (w.run p s).2) := by
  induction p generalizing s with
  | done a => rfl
  | failed f => rfl
  | ask r next ih => exact ih (w.answer s r).1 (w.answer s r).2

end World

end Notices
