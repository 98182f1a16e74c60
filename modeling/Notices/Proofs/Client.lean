import Notices.Proofs.Independence
import Notices.Proofs.Reason
import Notices.Proofs.Reply

/-!
# What the clients do

A client hands at most one thing to its provider, and what it reports agrees
with what the provider did.  For each client all that can become of a mail or of
a text message is listed first, and what is said of it is read off the list.

* `Email.Account.Fate` lists what can become of a mail, and `Sms.Account.Fate`
  what can become of a text message.
* `a_mail_has_an_id_iff_it_was_accepted` says which message is handed over for a
  mail, and what is reported.
* `a_message_is_sent_iff_its_request_was_granted` says which request is made for
  a text message, and what is reported unless its reply is misread.
-/

namespace Notices

/-- A result that is a value is that value. -/
theorem eq_ok_of_toOption {ε α : Type} {x : Except ε α} {a : α}
    (h : x.toOption = some a) : x = .ok a := by
  cases x with
  | ok b => exact congrArg Except.ok (Option.some.inj h)
  | error e => cases h

/-! ## Mails -/

namespace Email

/-- A text is given if there is one and it is not empty. -/
theorem isGiven_iff {o : Option String} :
    isGiven o = true ↔ ∃ s, o = some s ∧ s ≠ "" := by
  cases o with
  | none => simp [isGiven]
  | some s => simp [isGiven]

namespace Account

/-- The host, the user and the password of an account are there and not
empty. -/
structure IsComplete (a : Account) : Prop where
  host : ∃ s, a.host = some s ∧ s ≠ ""
  username : ∃ s, a.username = some s ∧ s ≠ ""
  password : ∃ s, a.password = some s ∧ s ≠ ""

/-- An account can be used if it is complete. -/
theorem isConfigured_iff {a : Account} :
    a.isConfigured = true ↔ a.IsComplete := by
  simp only [isConfigured, Bool.and_eq_true, isGiven_iff]
  constructor
  · rintro ⟨⟨hhost, husername⟩, hpassword⟩
    exact ⟨hhost, husername, hpassword⟩
  · rintro ⟨hhost, husername, hpassword⟩
    exact ⟨⟨hhost, husername⟩, hpassword⟩

/-- The message that is handed over for a mail, if there is one. -/
def handed? (a : Account) (number : Nat) (mail : Mail) : Option Message :=
  if a.isConfigured then (mail.compose? number).toOption else none

variable {a : Account} {reply : Submission → Reply} {number : Nat} {mail : Mail}
    {sent : Attempted}

/-- A message is handed over if the account is complete and the mail is composed
to it. -/
theorem handed?_eq_some_iff {message : Message} :
    a.handed? number mail = some message ↔
      a.IsComplete ∧ mail.compose? number = .ok message := by
  unfold handed?
  rw [← isConfigured_iff]
  cases a.isConfigured <;> cases mail.compose? number <;> simp [Except.toOption]

/-- What can become of a mail, and what is handed over for it: the
account cannot be used, the mail cannot be composed, the server fails, or
it accepts the message. -/
inductive Fate (a : Account) (reply : Submission → Reply) (number : Nat)
    (mail : Mail) : Attempted → Prop
  | notUsable (hno : ¬ a.IsComplete) :
      Fate a reply number mail ⟨.failed .emailNotConfigured, none⟩
  | notComposed {e : MailError} (hcomplete : a.IsComplete)
      (hcompose : mail.compose? number = .error e) :
      Fate a reply number mail ⟨.failed (.badMail e), none⟩
  | failed {message : Message} {f : Failure}
      (hhanded : a.handed? number mail = some message)
      (hreply : (reply (a.submit message)).failure? = some f) :
      Fate a reply number mail ⟨.failed (.raised f), some (a.submit message)⟩
  | accepted {message : Message}
      (hhanded : a.handed? number mail = some message)
      (hreply : reply (a.submit message) = .accepted) :
      Fate a reply number mail
        ⟨.delivered (some message.id), some (a.submit message)⟩

/-- A server that does not fail accepts. -/
theorem eq_accepted_of_failure? {r : Reply} (h : r.failure? = none) :
    r = .accepted := by
  cases r with
  | accepted => rfl
  | raised f => cases h
  | refused kind code text => cases h

/-- What becomes of a mail is on the list. -/
theorem fate_send (a : Account) (reply : Submission → Reply) (number : Nat)
    (mail : Mail) :
    a.Fate reply number mail (a.send reply number mail) := by
  by_cases hcomplete : a.IsComplete
  · have hconfigured := isConfigured_iff.mpr hcomplete
    unfold send
    rw [hconfigured]
    cases hcompose : mail.compose? number with
    | error e => exact .notComposed hcomplete hcompose
    | ok message =>
        have hhanded := handed?_eq_some_iff.mpr ⟨hcomplete, hcompose⟩
        simp only [Bool.not_true, Bool.false_eq_true, if_false]
        cases hfailure : (reply (a.submit message)).failure? with
        | some f => exact .failed hhanded hfailure
        | none => exact .accepted hhanded (eq_accepted_of_failure? hfailure)
  · have hconfigured : a.isConfigured = false := by
      simpa [← isConfigured_iff] using hcomplete
    unfold send
    rw [hconfigured]
    exact .notUsable hcomplete

namespace Fate

/-- What is submitted is the message that is handed over, and
nothing if there is none. -/
theorem submission_eq (h : a.Fate reply number mail sent) :
    sent.submission = (a.handed? number mail).map a.submit := by
  cases h with
  | notUsable hno =>
      have hnone : a.handed? number mail = none := by
        rw [Option.eq_none_iff_forall_ne_some]
        exact fun message hmessage => hno (handed?_eq_some_iff.mp hmessage).1
      rw [hnone]
      rfl
  | notComposed hcomplete hcompose =>
      have hnone : a.handed? number mail = none := by
        rw [Option.eq_none_iff_forall_ne_some]
        intro message hmessage
        have hboth := hcompose.symm.trans (handed?_eq_some_iff.mp hmessage).2
        cases hboth
      rw [hnone]
      rfl
  | failed hhanded hreply => rw [hhanded, Option.map_some]
  | accepted hhanded hreply => rw [hhanded, Option.map_some]

/-- A mail is delivered if its message is accepted. -/
theorem isDelivered_iff (h : a.Fate reply number mail sent) :
    sent.outcome.isDelivered = true ↔
      ∃ message, a.handed? number mail = some message ∧
        reply (a.submit message) = .accepted := by
  have hsubmission := h.submission_eq
  cases h with
  | notUsable hno | notComposed hcomplete hcompose =>
      have hnone : a.handed? number mail = none := by
        simpa using hsubmission.symm
      simp [Outcome.isDelivered, hnone]
  | failed hhanded hreply =>
      refine ⟨nofun, fun ⟨message, hmessage, haccepted⟩ => ?_⟩
      obtain rfl := Option.some.inj (hhanded.symm.trans hmessage)
      rw [haccepted] at hreply
      cases hreply
  | accepted hhanded hreply =>
      exact ⟨fun _ => ⟨_, hhanded, hreply⟩, fun _ => rfl⟩

/-- The id of a mail that is delivered is the one of its message. -/
theorem messageId_eq (h : a.Fate reply number mail sent)
    (hdelivered : sent.outcome.isDelivered = true) :
    ∃ message, a.handed? number mail = some message ∧
      sent.outcome.messageId = some message.id := by
  cases h with
  | notUsable | notComposed | failed => cases hdelivered
  | accepted hhanded hreply => exact ⟨_, hhanded, rfl⟩

/-- What is reported of a failure of the server is its text, or else its
kind. -/
theorem error_eq_of_raised (h : a.Fate reply number mail sent)
    {message : Message} {f : Failure}
    (hhanded : a.handed? number mail = some message)
    (hraised : reply (a.submit message) = .raised f) :
    sent.outcome.error = some f.message := by
  have hsubmission := h.submission_eq
  rw [hhanded] at hsubmission
  cases h with
  | notUsable | notComposed => cases hsubmission
  | failed hother hreply =>
      obtain rfl := Option.some.inj (hhanded.symm.trans hother)
      rw [hraised] at hreply
      obtain rfl := Option.some.inj hreply
      rfl
  | accepted hother hreply =>
      obtain rfl := Option.some.inj (hhanded.symm.trans hother)
      rw [hraised] at hreply
      cases hreply

/-- What is reported of a mail that cannot be composed are the words for
that. -/
theorem error_eq_of_compose? (h : a.Fate reply number mail sent)
    (hcomplete : a.IsComplete) {e : MailError}
    (hcompose : mail.compose? number = .error e) :
    sent.outcome.error = some e.message := by
  cases h with
  | notUsable hno => exact absurd hcomplete hno
  | notComposed _ hother =>
      obtain rfl := Except.error.inj (hcompose.symm.trans hother)
      rfl
  | failed hhanded _ | accepted hhanded _ =>
      have hboth := hcompose.symm.trans (handed?_eq_some_iff.mp hhanded).2
      cases hboth

/-- What is reported of an account that cannot be used are the words for
that. -/
theorem error_eq_of_not_isComplete (h : a.Fate reply number mail sent)
    (hno : ¬ a.IsComplete) :
    sent.outcome.error = some "SMTP not configured" := by
  cases h with
  | notUsable => rfl
  | notComposed hcomplete _ => exact absurd hcomplete hno
  | failed hhanded _ | accepted hhanded _ =>
      exact absurd (handed?_eq_some_iff.mp hhanded).1 hno

end Fate

end Account

end Email

/-- An outcome that is no delivery has no id, and the words for its cause. -/
theorem Answered.words_of_failed {channel : Channel} {outcome : Outcome}
    (h : Answered channel outcome) (hfailed : outcome.isDelivered = false) :
    outcome.messageId = none ∧ ∃ words, outcome.error = some words ∧
      words ≠ "" := by
  cases h with
  | delivered hid => cases hfailed
  | failed hcause => exact ⟨rfl, _, rfl, SendError.message_ne_empty hcause⟩

/-- Nothing is reported to be wrong with a delivery. -/
theorem Outcome.error_of_isDelivered {outcome : Outcome}
    (h : outcome.isDelivered = true) :
    outcome.error = none := by
  cases outcome with
  | delivered id => rfl
  | failed cause => cases h

namespace World

variable {w : World}

/-- Sending a mail by the service's own client comes to an outcome, and what is
handed over is put down. -/
theorem run_email (hclient : w.faults .email = none) (mail : Email.Mail)
    (s : State) :
    let sent :=
      w.email.send (w.mailServer s.submissions) (s.mailNumber + 1) mail
    (w.run (Program.call (.email mail)) s).1 = .ok sent.outcome ∧
      (w.run (Program.call (.email mail)) s).2.events = s.events ++
        sent.submission.toList.map .submitted := by
  intro sent
  rw [run_call]
  simp only [answer, collaborator?, Option.bind_some, hclient, serve]
  rw [sendEmail_eq]
  exact ⟨rfl, rfl⟩

end World

/-- **Mails.**  Sending a mail comes to an outcome.  A message is handed
over if the account is complete and the mail can be composed, and not else.
The mail is delivered if the server accepts that message, and then the id
that is reported is the one of the message; otherwise no id is reported but
the words of the first thing that went wrong, which are the kind of a
failure that has no text. -/
theorem a_mail_has_an_id_iff_it_was_accepted (w : World)
    (hclient : w.faults .email = none)
    (hkind : ∀ n submission f, w.mailServer n submission = .raised f →
      f.kind ≠ "")
    (mail : Email.Mail) (s : State) :
    let composed := mail.compose? (s.mailNumber + 1)
    let server (message : Email.Message) :=
      w.mailServer s.submissions (w.email.submit message)
    let ran := w.run (Program.call (.email mail)) s
    ∃ (outcome : Outcome) (handed : Option Email.Message),
      let report := outcome.toRecord
      ran.1 = .ok outcome ∧
      ran.2.events = s.events ++
        handed.toList.map (fun message => .submitted (w.email.submit message)) ∧
      (∀ message, handed = some message ↔
        w.email.IsComplete ∧ composed = .ok message) ∧
      (report.success = true ↔
        ∃ message, handed = some message ∧ server message = .accepted) ∧
      (report.success = true → report.error = none ∧
        ∃ message, handed = some message ∧ report.messageId = some message.id) ∧
      (report.success = false → report.messageId = none ∧
        ∃ words, report.error = some words ∧ words ≠ "") ∧
      (¬ w.email.IsComplete → report.error = some "SMTP not configured") ∧
      (∀ e, w.email.IsComplete → composed = .error e →
        report.error = some e.message) ∧
      ∀ message f, handed = some message → server message = .raised f →
        report.error = some (if f.text.isEmpty then f.kind else f.text) := by
  intro composed server ran
  obtain ⟨hresult, hevents⟩ := World.run_email hclient mail s
  have hfate :=
    w.email.fate_send (w.mailServer s.submissions) (s.mailNumber + 1) mail
  have hanswered :=
    w.email.answered_send (hkind s.submissions) (s.mailNumber + 1) mail
  rw [hfate.submission_eq] at hevents
  refine ⟨_, w.email.handed? (s.mailNumber + 1) mail, hresult, ?_,
    fun message =>
    Email.Account.handed?_eq_some_iff, hfate.isDelivered_iff, fun hdelivered =>
    ⟨Outcome.error_of_isDelivered hdelivered, hfate.messageId_eq hdelivered⟩,
    hanswered.words_of_failed, hfate.error_eq_of_not_isComplete,
    fun e hcomplete hcompose => hfate.error_eq_of_compose? hcomplete hcompose,
    fun message f hhanded hraised => hfate.error_eq_of_raised hhanded hraised⟩
  simp only [ran, hevents]
  cases w.email.handed? (s.mailNumber + 1) mail <;> rfl

/-- A mail of the shop that times out without a text is handed over, and
reported under the kind of that failure. -/
theorem mail_that_times_out :
    let w : World :=
      { World.shop with mailServer := fun _ _ => .raised ⟨"TimeoutError", ""⟩ }
    let mail : Email.Mail := {
      recipient := "ana@example.com", subject := "Invoice", html := "<p>Hi</p>",
        text := "Hi"
      senderName := "Shop", senderAddress := "shop@example.com" }
    let ran := w.run (Program.call (.email mail)) {}
    ran.2.events.length = 1 ∧ ∃ outcome, ran.1 = .ok outcome ∧
      outcome.toRecord.success = false ∧
        outcome.toRecord.error = some "TimeoutError" := by
  intro w mail ran
  have hkind : ∀ n submission f, w.mailServer n submission = .raised f →
      f.kind ≠ "" := by
    intro n submission f hraised
    obtain rfl := Email.Reply.raised.inj hraised
    decide
  obtain ⟨outcome, handed, hresult, hevents, hhanded, -, hdelivered, -, -, -,
    hraised⟩ :=
    a_mail_has_an_id_iff_it_was_accepted w rfl hkind mail {}
  have hok : (mail.compose? 1).isOk = true := by decide +kernel
  obtain ⟨message, hcompose⟩ : ∃ message, mail.compose? 1 = .ok message := by
    cases hcompose : mail.compose? 1 with
    | ok message => exact ⟨message, rfl⟩
    | error e =>
        rw [hcompose] at hok
        cases hok
  have hcomplete : w.email.IsComplete := Email.Account.isConfigured_iff.mp rfl
  have hsome : handed = some message :=
    (hhanded message).mpr ⟨hcomplete, hcompose⟩
  have herror : outcome.toRecord.error = some "TimeoutError" :=
    hraised message _ hsome rfl
  have hfailed : outcome.toRecord.success = false := by
    cases hsuccess : outcome.toRecord.success with
    | false => rfl
    | true =>
        have hnone := (hdelivered hsuccess).1
        rw [herror] at hnone
        cases hnone
  refine ⟨?_, outcome, hresult, hfailed, herror⟩
  simp only [ran, hevents, hsome]
  rfl

/-! ## Text messages -/

namespace Sms

/-- What is read of a granted reply: nothing is wrong, and the id is the one
that the reply gives. -/
theorem acceptance_eq_ok {v : Value} {outcome : Outcome}
    (h : acceptance v = .ok outcome) :
    outcome.isDelivered = true ∧
    Record.ofOption outcome.messageId = replyField v "sid" := by
  unfold acceptance at h
  cases hfield : replyField v "sid" with
  | null =>
      rw [hfield] at h
      obtain rfl := Checked.ok.inj h
      exact ⟨rfl, rfl⟩
  | string s =>
      rw [hfield] at h
      obtain rfl := Checked.ok.inj h
      exact ⟨rfl, rfl⟩
  | bool | int | real | time | list | object =>
      rw [hfield] at h
      cases h

/-- What is read of a refused reply is a failure. -/
theorem refusal_eq_ok {status : Int} {v : Value} {outcome : Outcome}
    (h : refusal status v = .ok outcome) :
    outcome.isDelivered = false := by
  unfold refusal at h
  dsimp only at h
  split at h
  · cases hreason : Record.text (replyField v "message") with
    | ok reason =>
        rw [hreason] at h
        obtain rfl := Checked.ok.inj h
        rfl
    | failed faults =>
        rw [hreason] at h
        cases h
  · obtain rfl := Checked.ok.inj h
    rfl

/-- A reason that is a text and not empty is what is reported of a refusal. -/
theorem refusal_of_message {status : Int} {fields : Fields} {reason : String}
    (hthere : fields.get? "message" = some (.string reason))
    (hne : reason ≠ "") :
    refusal status (.object fields) = .ok (.failed (.refused reason)) := by
  have htruthy : (Value.string reason).isTruthy = true := by
    simpa [Value.isTruthy] using hne
  unfold refusal
  rw [replyField_object hthere]
  simp only [htruthy, if_true]
  rfl

/-- A status grants a request if it is in the two hundreds. -/
theorem isSuccess_iff {status : Int} :
    isSuccess status = true ↔ 200 ≤ status ∧ status ≤ 299 := by
  simp [isSuccess]

namespace Account

/-- The id, the token and the number of an account are there and not empty. -/
structure IsComplete (a : Account) : Prop where
  sid : ∃ s, a.sid = some s ∧ s ≠ ""
  token : ∃ s, a.token = some s ∧ s ≠ ""
  number : ∃ s, a.number = some s ∧ s ≠ ""

/-- An account can be used if it is complete. -/
theorem isConfigured_iff {a : Account} :
    a.isConfigured = true ↔ a.IsComplete := by
  simp only [isConfigured, Bool.and_eq_true, Email.isGiven_iff]
  constructor
  · rintro ⟨⟨hsid, htoken⟩, hnumber⟩
    exact ⟨hsid, htoken, hnumber⟩
  · rintro ⟨hsid, htoken, hnumber⟩
    exact ⟨⟨hsid, htoken⟩, hnumber⟩

/-- The address of an account names a scheme and a host. -/
def IsAbsolute (a : Account) : Prop :=
  ∃ address, Url.Address.parse a.endpoint = .ok address ∧
    address.isAbsolute = true

variable {a : Account} {reply : Request → Reply} {destination body : String}
    {sent : Attempted}

/-- A request is made for a message: the account is complete, the destination is
a number, and the address can be read. -/
structure Posts (a : Account) (destination body : String) (request : Request) :
    Prop where
  isComplete : a.IsComplete
  form : ∃ number address, Phone.normalize? destination.toList = some number ∧
    Url.Address.parse a.endpoint = .ok address ∧
      request = a.requestAt address number body

/-- What can become of a message, and the request that is made for it:
no request is made, the request fails or is lost, its answer is no JSON,
or the answer is read. -/
inductive Fate (a : Account) (reply : Request → Reply)
    (destination body : String) : Attempted → Prop
  | notPosted {cause : SendError} (hcause : cause.message ≠ "") :
      Fate a reply destination body ⟨.ok (.failed cause), none⟩
  | raised {request : Request} {f : Failure}
      (hposts : a.Posts destination body request)
      (hreply : reply request = .raised f) :
      Fate a reply destination body ⟨.ok (.failed (.raised f)), some request⟩
  | lost {request : Request} (hposts : a.Posts destination body request)
      (hrelative : ¬ a.IsAbsolute) :
      Fate a reply destination body
        ⟨.ok (.failed (.relativeUrl request.url)), some request⟩
  | notJson {request : Request} {status : Int} {text : String}
      {r : Json.Refusal}
      (hposts : a.Posts destination body request)
      (hreply : reply request = .answered status text)
      (hread : Json.read text = .error r) :
      Fate a reply destination body
        ⟨.ok (.failed (.replyNotJson r)), some request⟩
  | read {request : Request} {status : Int} {text : String} {v : Value}
      (hposts : a.Posts destination body request) (habsolute : a.IsAbsolute)
      (hreply : reply request = .answered status text)
      (hread : Json.read text = .ok v) :
      Fate a reply destination body ⟨outcomeBy status v, some request⟩

/-- What becomes of a message is on the list. -/
theorem fate_send (a : Account) (reply : Request → Reply)
    (destination body : String) :
    a.Fate reply destination body (a.send reply destination body) := by
  by_cases hcomplete : a.IsComplete
  · have hconfigured := isConfigured_iff.mpr hcomplete
    cases hnumber : Phone.normalize? destination.toList with
    | none =>
        have hsend : a.send reply destination body =
            ⟨.ok (.failed .badNumber), none⟩ := by
          simp [send, hconfigured, hnumber]
        rw [hsend]
        exact .notPosted (by decide)
    | some number =>
        cases haddress : Url.Address.parse a.endpoint with
        | error p =>
            have hsend : a.send reply destination body =
                ⟨.ok (.failed (.badUrl p)), none⟩ := by
              simp [send, hconfigured, hnumber, haddress]
            rw [hsend]
            exact .notPosted p.message_ne_empty
        | ok address =>
            rw [send_of_parse hconfigured hnumber haddress]
            have hposts :
                a.Posts destination body (a.requestAt address number body) :=
              ⟨hcomplete, number, address, hnumber, haddress, rfl⟩
            cases hreply : reply (a.requestAt address number body) with
            | raised f => exact .raised hposts hreply
            | answered status text =>
                cases habsolute : address.isAbsolute with
                | false =>
                    have hrelative : ¬ a.IsAbsolute := by
                      rintro ⟨other, hother, htrue⟩
                      obtain rfl := Except.ok.inj (haddress.symm.trans hother)
                      rw [habsolute] at htrue
                      cases htrue
                    simp only [outcomeAt, habsolute]
                    exact .lost hposts hrelative
                | true =>
                    simp only [outcomeAt, habsolute, if_true, outcomeOf]
                    cases hread : Json.read text with
                    | error r => exact .notJson hposts hreply hread
                    | ok v =>
                        exact .read hposts ⟨address, haddress, habsolute⟩
                          hreply hread
  · have hsend : a.send reply destination body =
        ⟨.ok (.failed .smsNotConfigured), none⟩ := by
      have hconfigured : a.isConfigured = false := by
        simpa [← isConfigured_iff] using hcomplete
      simp [send, hconfigured]
    rw [hsend]
    exact .notPosted (by decide)

namespace Fate

/-- A request that is made has the number of the destination, the one of the
account, and the text. -/
theorem posts (h : a.Fate reply destination body sent) {request : Request}
    (hmade : sent.request = some request) :
    a.Posts destination body request := by
  cases h with
  | notPosted hcause => cases hmade
  | raised hposts | lost hposts | notJson hposts | read hposts =>
      obtain rfl := Option.some.inj hmade
      exact hposts

/-- What becomes of a message that is answered in JSON at an absolute address is
what is read of the answer. -/
theorem outcome_eq_of_answered (h : a.Fate reply destination body sent)
    {request : Request} {status : Int} {text : String} {v : Value}
    (hmade : sent.request = some request) (habsolute : a.IsAbsolute)
    (hreply : reply request = .answered status text)
    (hread : Json.read text = .ok v) :
    sent.outcome = outcomeBy status v := by
  cases h with
  | notPosted hcause => cases hmade
  | raised hposts hother =>
      obtain rfl := Option.some.inj hmade
      have hboth := hreply.symm.trans hother
      cases hboth
  | lost hposts hrelative => exact absurd habsolute hrelative
  | notJson hposts hother hrefused =>
      obtain rfl := Option.some.inj hmade
      obtain ⟨rfl, rfl⟩ := Reply.answered.inj (hreply.symm.trans hother)
      have hboth := hread.symm.trans hrefused
      cases hboth
  | read hposts _ hother hvalue =>
      obtain rfl := Option.some.inj hmade
      obtain ⟨rfl, rfl⟩ := Reply.answered.inj (hreply.symm.trans hother)
      obtain rfl := Except.ok.inj (hread.symm.trans hvalue)
      rfl

/-- A message is delivered only if a request for it is granted in JSON
at an absolute address. -/
theorem granted_of_isDelivered (h : a.Fate reply destination body sent)
    {outcome : Outcome} (houtcome : sent.outcome = .ok outcome)
    (hdelivered : outcome.isDelivered = true) :
    ∃ request status text v, sent.request = some request ∧ a.IsAbsolute ∧
      reply request = .answered status text ∧ Json.read text = .ok v ∧
      isSuccess status = true := by
  cases h with
  | notPosted | raised | lost | notJson =>
      obtain rfl := Checked.ok.inj houtcome
      cases hdelivered
  | read hposts habsolute hreply hread =>
      refine ⟨_, _, _, _, rfl, habsolute, hreply, hread, ?_⟩
      by_contra hrefused
      simp only [outcomeBy, hrefused] at houtcome
      have hfailed := refusal_eq_ok houtcome
      rw [hdelivered] at hfailed
      cases hfailed

end Fate

end Account

end Sms

/-- Sending a text message by the service's own client comes to what is read of
the reply, and a request that is made is put down. -/
theorem World.run_sms {w : World} (hclient : w.faults .sms = none)
    (destination body : String) (s : State) :
    let sent := w.sms.send (w.smsProvider s.requests) destination body
    (w.run (Program.call (.sms destination body)) s).1 =
      smsOutcome sent.outcome ∧
      (w.run (Program.call (.sms destination body)) s).2.events =
        s.events ++ sent.request.toList.map .requested := by
  intro sent
  rw [run_call]
  simp only [answer, collaborator?, Option.bind_some, hclient, serve]
  rw [sendSms_eq]
  exact ⟨rfl, rfl⟩

/-- **Text messages.**  At most one request is made for a text message, and only
for a complete account and a destination that has ten digits.  If there is an
outcome, the message is delivered if its request is granted in JSON at an
absolute address, and not else; then the id that is reported is the one of the
reply.  Otherwise no id is reported but some words, which are those of a reply
that refuses with a reason. -/
theorem a_message_is_sent_iff_its_request_was_granted (w : World)
    (hclient : w.faults .sms = none)
    (hkind : ∀ n request f, w.smsProvider n request = .raised f → f.kind ≠ "")
    (destination body : String) (s : State) :
    let provider := w.smsProvider s.requests
    let ran := w.run (Program.call (.sms destination body)) s
    ∃ made : Option Sms.Request,
      ran.2.events = s.events ++ made.toList.map .requested ∧
      (∀ request, made = some request →
        w.sms.IsComplete ∧ 10 ≤ (Phone.digits destination.toList).length ∧
        ∃ number sender, Phone.normalize? destination.toList = some number ∧
          w.sms.number = some sender ∧
          request.form =
            [("To", String.ofList number), ("From", sender), ("Body", body)]) ∧
      ∀ outcome, ran.1 = .ok outcome →
        let report := outcome.toRecord
        (report.success = true ↔
          ∃ request status text v, made = some request ∧ w.sms.IsAbsolute ∧
          provider request = .answered status text ∧ Json.read text = .ok v ∧
            200 ≤ status ∧ status ≤ 299) ∧
        (report.success = true → report.error = none) ∧
        (report.success = false → report.messageId = none ∧
          ∃ words, report.error = some words ∧ words ≠ "") ∧
        ∀ request status text v, made = some request → w.sms.IsAbsolute →
          provider request = .answered status text → Json.read text = .ok v →
          (200 ≤ status ∧ status ≤ 299 →
            Record.ofOption report.messageId = Sms.replyField v "sid") ∧
          ∀ (fields : Fields) (reason : String),
            ¬ (200 ≤ status ∧ status ≤ 299) → v = .object fields →
            fields.get? "message" = some (.string reason) → reason ≠ "" →
              report.error = some reason := by
  intro provider ran
  obtain ⟨hresult, hevents⟩ := World.run_sms hclient destination body s
  have hfate := w.sms.fate_send provider destination body
  have hanswered :=
    @Sms.Account.answered_send w.sms provider (hkind s.requests)
      destination body
  refine ⟨_, hevents, fun request hmade => ?_, fun outcome hok => ?_⟩
  · obtain ⟨hcomplete, number, address, hnumber, haddress, rfl⟩ :=
      hfate.posts hmade
    obtain ⟨sender, hsender, -⟩ := hcomplete.number
    refine ⟨hcomplete, ?_, number, sender, hnumber, hsender, ?_⟩
    · by_contra hfew
      have hnone := Phone.normalize?_eq_none_iff.mpr (Nat.lt_of_not_le hfew)
      rw [hnumber] at hnone
      cases hnone
    · simp [Sms.Account.requestAt, hsender]
  · have houtcome : (w.sms.send provider destination body).outcome =
        .ok outcome := by
      simp only [ran, hresult] at hok
      cases hsent : (w.sms.send provider destination body).outcome with
      | ok other =>
          simp only [provider] at hsent
          rw [hsent] at hok
          rw [Except.ok.inj hok]
      | failed faults =>
          simp only [provider] at hsent
          rw [hsent] at hok
          cases hok
    refine ⟨⟨fun hdelivered => ?_, ?_⟩, Outcome.error_of_isDelivered,
      (hanswered houtcome).words_of_failed, ?_⟩
    · obtain ⟨request, status, text, v, hmade, habsolute, hreply, hread,
        hgranted⟩ :=
        hfate.granted_of_isDelivered houtcome hdelivered
      exact ⟨request, status, text, v, hmade, habsolute, hreply, hread,
        Sms.isSuccess_iff.mp hgranted⟩
    · rintro ⟨request, status, text, v, hmade, habsolute, hreply, hread,
        hgranted⟩
      have hby := hfate.outcome_eq_of_answered hmade habsolute hreply hread
      rw [houtcome, Sms.outcomeBy, if_pos (Sms.isSuccess_iff.mpr hgranted)]
        at hby
      exact (Sms.acceptance_eq_ok hby.symm).1
    · intro request status text v hmade habsolute hreply hread
      have hby := hfate.outcome_eq_of_answered hmade habsolute hreply hread
      rw [houtcome, Sms.outcomeBy] at hby
      refine ⟨fun hgranted => ?_,
        fun fields reason hrefused hobject hthere hne => ?_⟩
      · rw [if_pos (Sms.isSuccess_iff.mpr hgranted)] at hby
        exact (Sms.acceptance_eq_ok hby.symm).2
      · rw [if_neg fun hgranted =>
          hrefused (Sms.isSuccess_iff.mp hgranted), hobject,
          Sms.refusal_of_message hthere hne] at hby
        obtain rfl := Checked.ok.inj hby
        rfl

/-- A text message of the shop to a number that is typed with brackets is
requested for the number, and sent. -/
theorem message_to_a_number_with_brackets :
    let ran := World.shop.run (Program.call (.sms "(555) 123-4567" "Hello")) {}
    ∃ request outcome, ran.2.events = [.requested request] ∧
      request.form =
        [("To", "+15551234567"), ("From", "+15550000000"), ("Body", "Hello")] ∧
      ran.1 = .ok outcome ∧ outcome.toRecord.success = true ∧
        outcome.toRecord.error = none := by
  have hkind : ∀ n request f, World.shop.smsProvider n request = .raised f →
      f.kind ≠ "" := by
    intro n request f hraised
    cases hraised
  have hlaw :=
    a_message_is_sent_iff_its_request_was_granted World.shop rfl hkind
      "(555) 123-4567" "Hello" {}
  have hlength :
      (World.shop.run (Program.call (.sms "(555) 123-4567" "Hello"))
        {}).2.events.length = 1 := by
    decide +kernel
  have hresult :
      (World.shop.run (Program.call (.sms "(555) 123-4567" "Hello"))
        {}).1.toOption =
      some (.delivered (some "SM1")) := by
    decide +kernel
  have hnumber : Phone.normalize? "(555) 123-4567".toList =
      some "+15551234567".toList := by decide +kernel
  generalize World.shop.run (Program.call (.sms "(555) 123-4567" "Hello")) {} =
    ran at hlaw hlength hresult ⊢
  obtain ⟨made, hevents, hmade, hreport⟩ := hlaw
  have hok := eq_ok_of_toOption hresult
  cases made with
  | none =>
      rw [hevents] at hlength
      cases hlength
  | some request =>
      obtain ⟨-, -, number, sender, hto, hfrom, hform⟩ := hmade request rfl
      rw [hnumber] at hto
      obtain rfl := Option.some.inj hto
      obtain rfl := Option.some.inj hfrom
      rw [String.ofList_toList] at hform
      exact ⟨request, _, hevents, hform, hok, rfl, (hreport _ hok).2.1 rfl⟩

/-- A text message of a shop whose provider has an address without a scheme and
a host fails although its request is granted in JSON. -/
theorem granted_request_without_a_host :
    let w : World :=
      { World.shop with
        sms := { World.shop.sms with baseUrl := "api.example.com" } }
    let ran := w.run (Program.call (.sms "5551234567" "Hello")) {}
    (∃ request, ran.2.events = [.requested request] ∧
      w.smsProvider 0 request = .answered 201 "\x7b\"sid\": \"SM1\"\x7d") ∧
      (∃ v, Json.read "\x7b\"sid\": \"SM1\"\x7d" = .ok v) ∧
      ∃ outcome, ran.1 = .ok outcome ∧ outcome.toRecord.success = false := by
  intro w
  have hread : (Json.read "\x7b\"sid\": \"SM1\"\x7d").toOption.isSome =
      true := by decide +kernel
  have hfailed :
      (w.run (Program.call (.sms "5551234567" "Hello")) {}).1.toOption.any
        (!·.isDelivered) = true := by
    decide +kernel
  have hmade :
      (w.sms.send (w.smsProvider 0) "5551234567" "Hello").request.isSome =
        true := by decide +kernel
  have hevents := (World.run_sms (w := w) rfl "5551234567" "Hello" {}).2
  generalize w.run (Program.call (.sms "5551234567" "Hello")) {} = ran
    at hfailed hevents ⊢
  obtain ⟨v, hv⟩ := Option.isSome_iff_exists.mp hread
  obtain ⟨request, hrequest⟩ := Option.isSome_iff_exists.mp hmade
  obtain ⟨outcome, houtcome, hno⟩ := (Option.any_eq_true _ _).mp hfailed
  have hsuccess : outcome.isDelivered = false := by simpa using hno
  refine ⟨⟨request, ?_, rfl⟩, ⟨v, eq_ok_of_toOption hv⟩, outcome,
    eq_ok_of_toOption houtcome, hsuccess⟩
  have hsent :
      (w.sms.send (w.smsProvider ({} : State).requests) "5551234567"
        "Hello").request = some request :=
    hrequest
  rw [hevents, hsent]
  rfl

end Notices
