import Notices.Proofs.Course
import Notices.Proofs.Writing
import Notices.Service.Dispatch
import Notices.Service.TestSend

/-!
# Letters

Both channels send in the same way: a letter is handed to the client of its
channel, and whatever the client answers is recorded.  Here the two ways are
one, with the channel as a parameter, so that what is said of a delivery or of a
branch of a dispatch is said once.

* `Notice.sendEmail_eq_deliver`, `Notice.sendSms_eq_deliver` and
  `TestSend.send_eq_deliver` say that all that is sent is a letter that is
  delivered.
* `World.course_deliver` says that a delivery is two exchanges, one with the
  client and one with the log.
-/

namespace Notices

/-! ## Letters and the calls of clients -/

/-- What is handed to the client of a channel. -/
inductive Letter where
  | email (mail : Email.Mail)
  | sms (recipient body : String)
  deriving DecidableEq, Repr

namespace Letter

/-- The channel of a letter. -/
def channel : Letter → Channel
  | .email _ => .email
  | .sms _ _ => .sms

/-- To whom a letter goes. -/
def recipient : Letter → String
  | .email mail => mail.recipient
  | .sms recipient _ => recipient

/-- The subject of a letter, which only an email has. -/
def subject : Letter → Option String
  | .email mail => some mail.subject
  | .sms _ _ => none

/-- The plain text of a letter. -/
def body : Letter → String
  | .email mail => mail.text
  | .sms _ body => body

/-- Hands a letter to the client of its channel. -/
def hand : Letter → Program Outcome
  | .email mail => Program.call (.email mail)
  | .sms recipient body => Program.call (.sms recipient body)

/-- The exchange with the client of a letter. -/
def exchange (l : Letter) (answer : Except Failure Outcome) : Exchange :=
  match l with
  | .email mail => ⟨.email mail, answer⟩
  | .sms recipient body => ⟨.sms recipient body, answer⟩

/-- What is recorded of a letter. -/
def attempt (l : Letter) (templateId : String) (links : Links)
    (outcome : Outcome) : Attempt where
  channel := l.channel
  recipient := l.recipient
  subject := l.subject
  body := l.body
  templateId
  outcome
  links

/-- Hands a letter over and records what became of it, if the business records
that it belongs to can be written. -/
def deliver (l : Letter) (templateId : String) (links : Except Failure Links) :
    Program Outcome := do
  let answer ← l.hand.attempt
  let outcome := Notice.outcomeOf answer
  let links ← Program.ofExcept links
  let _ ← Program.call (.record (l.attempt templateId links outcome))
  return outcome

end Letter

/-- A call of a client: the letter that it was handed, and its answer. -/
structure ClientCall where
  letter : Letter
  answer : Except Failure Outcome

/-- The call of a client that an exchange is, if it is one. -/
def Exchange.clientCall? : Exchange → Option ClientCall
  | ⟨.email mail, answer⟩ => some ⟨.email mail, answer⟩
  | ⟨.sms recipient body, answer⟩ => some ⟨.sms recipient body, answer⟩
  | _ => none

/-- The exchange with the client of a letter is a call of a client. -/
@[simp] theorem Letter.clientCall?_exchange (l : Letter)
    (answer : Except Failure Outcome) :
    (l.exchange answer).clientCall? = some ⟨l, answer⟩ := by
  cases l <;> rfl

namespace Course

variable {α : Type}

/-- The calls of clients on a course, in their order. -/
def calls (c : Course α) : List ClientCall :=
  c.exchanges.filterMap Exchange.clientCall?

/-- The calls of the client of a channel on a course. -/
def callsOn (c : Course α) (channel : Channel) : List ClientCall :=
  c.calls.filter fun call => call.letter.channel = channel

end Course

/-! ## What is sent is a letter -/

namespace Notice

/-- What is sent by email is delivered as a mail of the settings' sender. -/
theorem sendEmail_eq_deliver (n : Notice) (settings : Settings)
    (subject html text : String) :
    n.sendEmail settings subject html text =
      (Letter.email {
        recipient := n.recipient
        subject, html, text
        senderName := settings.senderName
        senderAddress := settings.senderAddress
        replyTo := settings.replyTo.filter (!·.isEmpty) }).deliver n.template.id
          (Links.ofContext n.data) := rfl

/-- What is sent by SMS is delivered as a text message. -/
theorem sendSms_eq_deliver (n : Notice) (body : String) :
    n.sendSms body =
      (Letter.sms n.recipient body).deliver n.template.id
        (Links.ofContext n.data) := rfl

end Notice

namespace Template

section Letters

variable (t : Template) (channel : Channel) (mark : String → String)
    (settings : Settings)
  (data : Fields)

/-- The letter of a template that is filled in with data, with what is read
first marked in some way. -/
def letter (recipient : String) : Letter :=
  match channel with
  | .email => .email {
      recipient
      subject := mark (fill data t.subject)
      html := fill data t.html
      text := fill data t.text
      senderName := settings.senderName
      senderAddress := settings.senderAddress
      replyTo := settings.replyTo.filter (!·.isEmpty) }
  | .sms => .sms recipient (mark (fill data t.smsBody))

/-- The letter of a template to a recipient, if both can be written. -/
def letter? (recipient : Value) : Program Letter := do
  let recipient ← Dispatch.address recipient
  match channel with
  | .email =>
    let subject ← fill? data t.subject
    let html ← fill? data t.html
    let text ← fill? data t.text
    return .email {
      recipient
      subject := mark subject
      html, text
      senderName := settings.senderName
      senderAddress := settings.senderAddress
      replyTo := settings.replyTo.filter (!·.isEmpty) }
  | .sms => return .sms recipient (mark (← fill? data t.smsBody))

end Letters

section

variable {t : Template} {channel : Channel} {mark : String → String}
    {settings : Settings}
  {data : Fields}

/-- A letter is one of the channel for which it was written. -/
@[simp] theorem channel_letter (t : Template) (channel : Channel)
    (mark : String → String) (settings : Settings) (data : Fields)
    (recipient : String) :
    (t.letter channel mark settings data recipient).channel = channel := by
  cases channel <;> rfl

/-- A part of a template that can be filled in is. -/
theorem fill?_of_isFillable {part : Option String}
    (h : Markup.IsFillable data (part.getD "").toList) :
    fill? data part = pure (fill data part) := by
  rw [fill?, Markup.renderText?, Markup.render?_of_isFillable h]
  rfl

/-- A part of a template that cannot be filled in is a failure. -/
theorem fill?_of_not_isFillable {part : Option String}
    (h : ¬ Markup.IsFillable data (part.getD "").toList) :
    fill? data part = .failed Value.tooLong := by
  rw [fill?, Markup.renderText?, Markup.render?_of_not_isFillable h]
  rfl

/-- What can be filled in is written as a letter to a recipient who can be
written. -/
theorem letter?_of_isFillable {recipient : Value}
    (hto : recipient.isWritable = true) (h : t.IsFillable channel data) :
    t.letter? channel mark settings data recipient =
      pure (t.letter channel mark settings data
        (String.ofList recipient.spell)) := by
  have hfill : ∀ part ∈ t.parts channel,
      fill? data part = pure (fill data part) :=
    fun part hpart => fill?_of_isFillable (h part hpart)
  unfold letter? Dispatch.address
  rw [Value.write_of_isWritable hto]
  cases channel with
  | email =>
      have hsubject := hfill t.subject (by simp [parts])
      have hhtml := hfill t.html (by simp [parts])
      have htext := hfill t.text (by simp [parts])
      simp only [hsubject, hhtml, htext]
      rfl
  | sms =>
      have hbody := hfill t.smsBody (by simp [parts])
      simp only [hbody]
      rfl

/-- There is no letter if the recipient or what is to be filled in cannot be
written. -/
theorem letter?_of_not_isFillable {recipient : Value}
    (h : ¬ (recipient.isWritable = true ∧ t.IsFillable channel data)) :
    t.letter? channel mark settings data recipient = .failed Value.tooLong := by
  unfold letter? Dispatch.address
  by_cases hto : recipient.isWritable = true
  · have hparts : ¬ t.IsFillable channel data := fun hparts => h ⟨hto, hparts⟩
    rw [Value.write_of_isWritable hto]
    cases channel with
    | email =>
        by_cases hsubject : Markup.IsFillable data (t.subject.getD "").toList
        · by_cases hhtml : Markup.IsFillable data (t.html.getD "").toList
          · have htext : ¬ Markup.IsFillable data (t.text.getD "").toList := by
              intro htext
              apply hparts
              simp [IsFillable, parts, hsubject, hhtml, htext]
            simp only [fill?_of_isFillable hsubject, fill?_of_isFillable hhtml,
              fill?_of_not_isFillable htext]
            rfl
          · simp only [fill?_of_isFillable hsubject,
              fill?_of_not_isFillable hhtml]
            rfl
        · simp only [fill?_of_not_isFillable hsubject]
          rfl
    | sms =>
        have hbody : ¬ Markup.IsFillable data (t.smsBody.getD "").toList := by
          intro hbody
          apply hparts
          simp [IsFillable, parts, hbody]
        simp only [fill?_of_not_isFillable hbody]
        rfl
  · rw [Value.write_of_not_isWritable (by simpa using hto)]
    rfl

/-- What is written by a template is a letter of the channel, or it cannot be
written. -/
theorem letter?_cases (t : Template) (channel : Channel)
    (mark : String → String) (settings : Settings) (data : Fields)
    (recipient : Value) :
    (∃ l : Letter, l.channel = channel ∧
      t.letter? channel mark settings data recipient = pure l) ∨
    t.letter? channel mark settings data recipient = .failed Value.tooLong := by
  by_cases hshort : recipient.isWritable = true ∧ t.IsFillable channel data
  · exact Or.inl ⟨_, channel_letter .., letter?_of_isFillable hshort.1 hshort.2⟩
  · exact Or.inr (letter?_of_not_isFillable hshort)

end

end Template

namespace TestSend

/-- A test is posted as a marked letter that belongs to no business record. -/
theorem send_eq_post (template : Template) (recipient : String)
    (settings : Settings) (data : Fields) :
    send template recipient settings data =
      template.letter? template.channel (mark ++ ·) settings data
        (.string recipient) >>=
        fun letter => letter.deliver template.id (.ok {}) := by
  have haddress : Dispatch.address (.string recipient) = pure recipient := by
    rw [Dispatch.address, Value.write_string, Except.map, String.ofList_toList]
    rfl
  have hlinks : Links.ofContext [] = .ok {} := rfl
  unfold send Template.letter?
  rw [haddress]
  cases template.channel with
  | email => simp [Notice.sendEmail_eq_deliver, hlinks]
  | sms => simp [Notice.sendSms_eq_deliver, hlinks]

/-- A test with data that can be written is delivered as a marked letter. -/
theorem send_eq_deliver {template : Template} {recipient : String}
    {settings : Settings} {data : Fields}
    (hdata : Value.fieldsAreWritable data = true) :
    send template recipient settings data =
      (template.letter template.channel (mark ++ ·) settings data
        recipient).deliver
        template.id (.ok {}) := by
  have hfill : template.IsFillable template.channel data :=
    fun part _ => Markup.isFillable_of_fieldsAreWritable hdata _
  have hto : String.ofList (Value.string recipient).spell = recipient :=
    String.ofList_toList
  rw [send_eq_post, Template.letter?_of_isFillable rfl hfill, pure_bind, hto]

/-- The sample data can be written. -/
theorem fieldsAreWritable_sample {now : Timestamp} {data : Fields}
    (h : Sample.context? now = some data) :
    Value.fieldsAreWritable data = true := by
  obtain ⟨due, -, rfl⟩ := Option.map_eq_some_iff.mp h
  rfl

end TestSend

/-! ## The course of a delivery -/

namespace World

/-- What the client of a letter answers, and the state behind that. -/
def hand (w : World) (l : Letter) (s : State) :
    Except Failure Outcome × State :=
  match l with
  | .email mail => w.answer s (.email mail)
  | .sms recipient body => w.answer s (.sms recipient body)

/-- Handing a letter over is one exchange with its client. -/
theorem course_hand (w : World) (l : Letter) (s : State) :
    w.course l.hand s =
      ⟨(w.hand l s).1, [l.exchange (w.hand l s).1], (w.hand l s).2⟩ := by
  cases l with
  | email mail => exact w.course_call (.email mail) s
  | sms recipient body => exact w.course_call (.sms recipient body) s

/-- Handing a letter over leaves the log as it is. -/
theorem log_hand (w : World) (l : Letter) (s : State) :
    (w.hand l s).2.log = s.log := by
  cases l with
  | email mail => exact w.log_answer_of_ne s (by simp)
  | sms recipient body => exact w.log_answer_of_ne s (by simp)

/-- A delivery is an exchange with the client and one with the log.  It comes to
what the client answered, unless the log fails. -/
theorem course_deliver (w : World) (l : Letter) (templateId : String)
    (links : Links) (s : State) :
    let outcome := Notice.outcomeOf (w.hand l s).1
    let recorded :=
      w.answer (w.hand l s).2 (.record (l.attempt templateId links outcome))
    w.course (l.deliver templateId (.ok links)) s =
      ⟨recorded.1.map fun _ => outcome,
        [l.exchange (w.hand l s).1,
          ⟨.record (l.attempt templateId links outcome), recorded.1⟩],
        recorded.2⟩ := by
  intro outcome recorded
  have hlinks : Program.ofExcept (.ok links) = pure links := rfl
  unfold Letter.deliver
  rw [course_bind, course_attempt, course_hand, Course.andThen_ok, hlinks,
    pure_bind, course_bind, course_call]
  show Course.mk _ _ _ = _
  cases h : recorded.1 with
  | ok written =>
      simp [Course.ofAnswer, Course.andThen, h, recorded, outcome, Except.map]
  | error f =>
      simp [Course.ofAnswer, Course.andThen, h, recorded, outcome, Except.map]

/-- A delivery whose business records cannot be written is over when
the client has answered. -/
theorem course_deliver_unlinked (w : World) (l : Letter) (templateId : String)
    (f : Failure) (s : State) :
    w.course (l.deliver templateId (.error f)) s =
      ⟨.error f, [l.exchange (w.hand l s).1], (w.hand l s).2⟩ := by
  unfold Letter.deliver
  rw [course_bind, course_attempt, course_hand, Course.andThen_ok]
  rfl

/-- A delivery calls one client, and only once. -/
theorem calls_deliver (w : World) (l : Letter) (templateId : String)
    (links : Except Failure Links) (s : State) :
    (w.course (l.deliver templateId links) s).calls =
      [⟨l, (w.hand l s).1⟩] := by
  cases links with
  | error f =>
      rw [course_deliver_unlinked]
      simp only [Course.calls, List.filterMap_cons, Letter.clientCall?_exchange]
      rfl
  | ok links =>
      rw [course_deliver]
      simp only [Course.calls, List.filterMap_cons, Letter.clientCall?_exchange]
      rfl

end World

end Notices
