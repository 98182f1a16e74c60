import Notices.World.Basic

/-!
# The course of a run

A run of a program in a world comes to a result and leaves a state.  On the
way it makes requests, each with its answer, and these exchanges are the
third part of its course.

* `World.course_bind` and `World.course_attempt` say how sequences and caught
  failures go.
* `World.log_answer` says that an answer leaves the log as it is or appends the
  entry of the attempt that was to be recorded.
-/

namespace Notices

/-- A request and the answer to it. -/
structure Exchange where
  request : Request
  answer : Except Failure request.Answer

/-- How a program runs: what it comes to, what it asks on the way,
and the state it leaves. -/
structure Course (α : Type) where
  result : Except Failure α
  exchanges : List Exchange
  after : State

namespace Course

variable {α β : Type}

/-- A course that is followed by another one, unless it comes to a failure. -/
def andThen (c : Course α) (next : α → State → Course β) : Course β :=
  match c.result with
  | .ok a =>
    { result := (next a c.after).result
      exchanges := c.exchanges ++ (next a c.after).exchanges
      after := (next a c.after).after }
  | .error f =>
      { result := .error f, exchanges := c.exchanges, after := c.after }

/-- A course that came to a value goes on with it. -/
@[simp] theorem andThen_ok (a : α) (es : List Exchange) (s : State)
    (next : α → State → Course β) :
    andThen ⟨.ok a, es, s⟩ next =
      ⟨(next a s).result, es ++ (next a s).exchanges, (next a s).after⟩ := rfl

/-- A course whose result is known to be a value goes on with it. -/
theorem andThen_of_ok {c : Course α} {a : α} (h : c.result = .ok a)
    (next : α → State → Course β) :
    c.andThen next =
      ⟨(next a c.after).result, c.exchanges ++ (next a c.after).exchanges,
        (next a c.after).after⟩ := by
  obtain ⟨result, es, after⟩ := c
  obtain rfl : result = .ok a := h
  rfl

/-- The course of a single request with its answer. -/
def ofAnswer (r : Request) (answered : Except Failure r.Answer × State) :
    Course r.Answer :=
  ⟨answered.1, [⟨r, answered.1⟩], answered.2⟩

end Course

namespace World

variable {α β : Type}

/-- The requests of a run with their answers, in their order. -/
def exchanges (w : World) : Program α → State → List Exchange
  | .done _, _ => []
  | .failed _, _ => []
  | .ask r next, s =>
    ⟨r, (w.answer s r).1⟩ ::
      w.exchanges (next (w.answer s r).1) (w.answer s r).2

/-- The course of a program from a state. -/
def course (w : World) (p : Program α) (s : State) : Course α :=
  ⟨(w.run p s).1, w.exchanges p s, (w.run p s).2⟩

/-- A program that is done asks nothing and changes nothing. -/
@[simp] theorem course_pure (w : World) (a : α) (s : State) :
    w.course (pure a : Program α) s = ⟨.ok a, [], s⟩ := rfl

/-- A program that has failed asks nothing and changes nothing. -/
@[simp] theorem course_failed (w : World) (f : Failure) (s : State) :
    w.course (.failed f : Program α) s = ⟨.error f, [], s⟩ := rfl

/-- A program that asks goes on with the answer. -/
theorem course_ask (w : World) (r : Request)
    (next : Except Failure r.Answer → Program α) (s : State) :
    w.course (.ask r next) s =
      { w.course (next (w.answer s r).1) (w.answer s r).2 with
        exchanges := ⟨r, (w.answer s r).1⟩ ::
          (w.course (next (w.answer s r).1) (w.answer s r).2).exchanges } := rfl

/-- A request alone is one exchange. -/
theorem course_call (w : World) (r : Request) (s : State) :
    w.course (Program.call r) s = Course.ofAnswer r (w.answer s r) := by
  unfold Program.call
  rw [course_ask]
  obtain ⟨answer, after⟩ := w.answer s r
  cases answer <;> rfl

/-- The course of a sequence. -/
theorem course_bind (w : World) (p : Program α) (k : α → Program β)
    (s : State) :
    w.course (p >>= k) s = (w.course p s).andThen fun a after =>
      w.course (k a) after := by
  show w.course (p.bind k) s = _
  induction p generalizing s with
  | done a => rfl
  | failed f => rfl
  | ask r next ih =>
      have hnext := ih (w.answer s r).1 (w.answer s r).2
      rw [Program.bind, course_ask, course_ask, hnext]
      unfold Course.andThen
      cases (w.course (next (w.answer s r).1) (w.answer s r).2).result <;> rfl

/-- The course of a program whose failure is caught. -/
theorem course_attempt (w : World) (p : Program α) (s : State) :
    w.course p.attempt s =
      ⟨.ok (w.course p s).result, (w.course p s).exchanges,
        (w.course p s).after⟩ := by
  induction p generalizing s with
  | done a => rfl
  | failed f => rfl
  | ask r next ih =>
      have hnext := ih (w.answer s r).1 (w.answer s r).2
      rw [Program.attempt, course_ask, course_ask, hnext]

/-- Sending a mail leaves the log as it is. -/
theorem log_sendEmail (w : World) (mail : Email.Mail) (s : State) :
    (w.sendEmail mail s).2.log = s.log := by
  by_cases hnumber : w.email.usesNumber mail = true
  · simp only [sendEmail, hnumber, if_true]
    split <;> rfl
  · simp only [sendEmail, hnumber]
    split <;> rfl

/-- Sending a text message leaves the log as it is. -/
theorem log_sendSms (w : World) (recipient body : String) (s : State) :
    (w.sendSms recipient body s).2.log = s.log := by
  unfold sendSms
  dsimp only
  split <;> rfl

/-- An answer leaves the log as it is, unless an attempt is recorded, whose
entry comes behind the others. -/
theorem log_answer (w : World) (s : State) (r : Request) :
    (w.answer s r).2.log = s.log ∨
      ∃ attempt id, r = .record attempt ∧
        (w.answer s r).2.log = s.log ++
          [(attempt.stamp id w.now).toFields] := by
  unfold answer
  split
  · exact Or.inl rfl
  · cases r with
    | record attempt =>
        by_cases hfailing : w.outage.writeLog s.writes = true
        · exact Or.inl (by simp [serve, record, hfailing])
        · refine Or.inr ⟨attempt, w.logIds s.writes, rfl, ?_⟩
          simp [serve, record, hfailing, State.put]
    | email mail => exact Or.inl (log_sendEmail w mail s)
    | sms recipient body => exact Or.inl (log_sendSms w recipient body s)
    | unknownTrigger trigger =>
        left
        simp only [serve, reportUnknown]
        split <;> rfl
    | settings | template _ _ | templateById _ | recent _ | now =>
        exact Or.inl rfl

/-- An answer leaves the log as it is unless something is to be recorded. -/
theorem log_answer_of_ne (w : World) (s : State) {r : Request}
    (h : ∀ attempt, r ≠ .record attempt) :
    (w.answer s r).2.log = s.log := by
  rcases w.log_answer s r with hlog | ⟨attempt, _, hr, _⟩
  · exact hlog
  · exact absurd hr (h attempt)

/-- A world in which everything works: both channels are on, both clients are
configured, and one trigger has its two templates. -/
def shop : World where
  settings := some [("email_enabled", .bool true), ("sms_enabled", .bool true)]
  templates := [
    [("template_id", .string "mail-1"), ("type", .string "email"),
      ("trigger", .string "invoice_ready"),
      ("email_subject", .string "Invoice \x7b\x7binvoice_number\x7d\x7d")],
    [("template_id", .string "text-1"), ("type", .string "sms"),
      ("trigger", .string "invoice_ready"),
      ("sms_body", .string "Your invoice is ready")]]
  outage := {}
  faults _ := none
  email := {
    host := some "smtp.example.com"
    port := 587
    username := some "shop"
    password := some "secret"
    timeout := .ofInt 15 }
  sms := {
    sid := some "AC1"
    token := some "token"
    number := some "+15550000000"
    baseUrl := "https://api.twilio.com" }
  mailServer _ _ := .accepted
  smsProvider _ _ := .answered 201 "\x7b\"sid\": \"SM1\"\x7d"
  hook := .absent
  now := ⟨1767225600, 0, some 0⟩
  logIds n := s!"entry-{n}"

end World

end Notices
