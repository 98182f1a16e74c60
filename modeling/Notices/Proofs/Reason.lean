import Notices.Proofs.Letter

/-!
# What a client can answer

Whatever goes wrong with a letter, there are words for it, and whatever goes
well with a mail has an id.  Only the words of what fails outside are not the
library's own: they are not empty because a failure has a kind.

* `SendError.message_ne_empty` says when the words for a cause are not empty.
* `World.NamesFailures` says that all failures from outside have a kind.
* `World.NamesFailures.answered_hand` says what can become of a letter in such a
  world.
-/

namespace Notices

/-! ## The words for a cause -/

/-- A text that goes on behind another one is not empty if that is not. -/
theorem append_ne_empty {s : String} (h : s ≠ "") (t : String) :
    s ++ t ≠ "" := by
  intro heq
  exact h (String.append_eq_empty_iff.mp heq).1

/-- There are words for every mail that cannot be composed. -/
theorem Email.MailError.message_ne_empty (e : Email.MailError) :
    e.message ≠ "" := by
  cases e with
  | notAscii run | notUtf8 run =>
      unfold message
      repeat apply append_ne_empty
      decide
  | _ => decide

/-- There are words for every text that is no address. -/
theorem Url.AddressProblem.message_ne_empty (p : Url.AddressProblem) :
    p.message ≠ "" := by
  cases p with
  | tooLong | pathAfterSlash | pathAfterColon => decide
  | control c position =>
      unfold message
      dsimp only
      repeat apply append_ne_empty
      decide
  | host problem s =>
      cases problem <;> exact append_ne_empty (by decide) _
  | port s => exact append_ne_empty (by decide) _

/-- There are words for every text that is not read as JSON. -/
theorem Json.Refusal.message_ne_empty (r : Json.Refusal) : r.message ≠ "" := by
  cases r with
  | malformed fault =>
      have hproblem : fault.problem.text ≠ "" := by
        cases fault.problem <;> decide
      unfold message
      dsimp only
      unfold Fault.message
      repeat apply append_ne_empty
      exact hproblem
  | tooManyDigits count =>
      unfold message
      dsimp only
      repeat apply append_ne_empty
      decide
  | tooDeep container => cases container <;> decide
  | undecodable fault =>
      unfold message
      dsimp only
      unfold EncodingFault.message
      repeat apply append_ne_empty
      decide

/-- A cause that comes with words of its own, from outside, has some. -/
def SendError.IsWorded : SendError → Prop
  | .raised f => f.message ≠ ""
  | .refused reason => reason ≠ ""
  | _ => True

/-- A cause is reported by some words. -/
theorem SendError.message_ne_empty {cause : SendError} (h : cause.IsWorded) :
    cause.message ≠ "" := by
  cases cause with
  | badMail e => exact e.message_ne_empty
  | badUrl p => exact p.message_ne_empty
  | replyNotJson r => exact r.message_ne_empty
  | raised f => exact h
  | refused reason => exact h
  | relativeUrl url => exact append_ne_empty (by decide) _
  | refusedWithStatus status => exact append_ne_empty (by decide) _
  | _ => decide

/-! ## What becomes of a letter -/

/-- What can become of a letter on a channel: it fails for a cause that has
words, or it is delivered, and a mail then has an id. -/
inductive Answered (channel : Channel) : Outcome → Prop
  | delivered {id : Option String}
      (hid : channel = .email → id ≠ none) : Answered channel (.delivered id)
  | failed {cause : SendError}
      (hcause : cause.IsWorded) : Answered channel (.failed cause)

/-- A failure that has a text is reported by it. -/
theorem Failure.message_of_text {f : Failure} (h : f.text ≠ "") :
    f.message = f.text := by
  unfold message
  rw [if_neg (by simpa using h)]

/-- A mail comes to an id or to a cause that has words, if the server raises no
failure without a kind. -/
theorem Email.Account.answered_send (a : Email.Account)
    {reply : Email.Submission → Email.Reply}
    (hreply : ∀ submission f, reply submission = .raised f → f.kind ≠ "")
    (number : Nat) (mail : Email.Mail) :
    Answered .email (a.send reply number mail).outcome := by
  unfold send
  split
  · exact .failed trivial
  · split
    · exact .failed trivial
    · next message _ =>
      dsimp only
      cases hanswer : reply (a.submit message) with
      | accepted => exact .delivered fun _ => nofun
      | raised f =>
          exact .failed (Failure.message_ne_empty (hreply _ f hanswer))
      | refused kind code text =>
          refine .failed ?_
          have htext : String.ofList
              ('(' :: intText code ++ [',', ' '] ++ Text.quoted text.toList ++
                [')']) ≠ "" := by
            simp
          show Failure.message _ ≠ ""
          rw [Failure.message_of_text htext]
          exact htext

/-- A reply of the SMS provider that has no faults comes to what can
become of a text message. -/
theorem Sms.answered_outcomeOf {reply : Sms.Reply}
    (hreply : ∀ f, reply = .raised f → f.kind ≠ "") {outcome : Outcome}
    (h : Sms.outcomeOf reply = .ok outcome) : Answered .sms outcome := by
  cases reply with
  | raised f =>
      obtain rfl := Checked.ok.inj h
      exact .failed (Failure.message_ne_empty (hreply f rfl))
  | answered status text =>
      simp only [outcomeOf] at h
      split at h
      · obtain rfl := Checked.ok.inj h
        exact .failed trivial
      · next v _ =>
        split at h
        · unfold acceptance at h
          cases hid : Record.nullable Record.text (replyField v "sid") with
          | ok id =>
              rw [hid] at h
              obtain rfl := Checked.ok.inj h
              exact .delivered nofun
          | failed faults =>
              rw [hid] at h
              cases h
        · simp only [refusal] at h
          split at h
          · next htruthy =>
            cases hreason : replyField v "message" with
            | string reason =>
                rw [hreason] at h htruthy
                obtain rfl := Checked.ok.inj h
                have hreason : reason ≠ "" := by
                  simpa [Value.isTruthy] using htruthy
                exact .failed hreason
            | null | bool | int | real | time | list | object =>
                rw [hreason] at h
                cases h
          · obtain rfl := Checked.ok.inj h
            exact .failed trivial

/-- A text message without faults in its reply comes to what can become of
one. -/
theorem Sms.Account.answered_send (a : Sms.Account)
    {reply : Sms.Request → Sms.Reply}
    (hreply : ∀ request f, reply request = .raised f → f.kind ≠ "")
    {destination body : String} {outcome : Outcome}
    (h : (a.send reply destination body).outcome = .ok outcome) :
    Answered .sms outcome := by
  unfold send at h
  split at h
  · obtain rfl := Checked.ok.inj h
    exact .failed trivial
  · split at h
    · obtain rfl := Checked.ok.inj h
      exact .failed trivial
    · next number _ =>
      split at h
      · obtain rfl := Checked.ok.inj h
        exact .failed trivial
      · next address _ =>
        dsimp only at h
        unfold outcomeAt at h
        split at h
        · next f hraised =>
          obtain rfl := Checked.ok.inj h
          exact .failed (Failure.message_ne_empty (hreply _ f hraised))
        · split at h
          · exact answered_outcomeOf (hreply _) h
          · obtain rfl := Checked.ok.inj h
            exact .failed trivial

namespace World

/-- All failures from outside have a kind: those of the collaborators, and those
that the mail server and the SMS provider raise. -/
structure NamesFailures (w : World) : Prop where
  faults : ∀ c f, w.faults c = some f → f.kind ≠ ""
  mailServer : ∀ n submission f, w.mailServer n submission = .raised f →
    f.kind ≠ ""
  smsProvider : ∀ n request f, w.smsProvider n request = .raised f → f.kind ≠ ""

/-- A letter fails for a cause that has words or is delivered, and a mail then
has an id. -/
theorem NamesFailures.answered_hand {w : World} (hnames : w.NamesFailures)
    (l : Letter) (s : State) :
    Answered l.channel (Notice.outcomeOf (w.hand l s).1) := by
  cases l with
  | email mail =>
      cases hfault : w.faults .email with
      | some f =>
          have hanswer : (w.hand (.email mail) s).1 = .error f := by
            simp [hand, answer, collaborator?, hfault]
          rw [hanswer]
          exact .failed (Failure.message_ne_empty (hnames.faults _ f hfault))
      | none =>
          have hanswer : (w.hand (.email mail) s).1 =
              .ok (w.email.send (w.mailServer s.submissions)
                (s.mailNumber + 1) mail).outcome := by
            simp only [hand, answer, collaborator?, Option.bind_some, hfault,
              serve, sendEmail]
            split <;> rfl
          rw [hanswer]
          exact w.email.answered_send (hnames.mailServer s.submissions) _ mail
  | sms recipient body =>
      cases hfault : w.faults .sms with
      | some f =>
          have hanswer : (w.hand (.sms recipient body) s).1 = .error f := by
            simp [hand, answer, collaborator?, hfault]
          rw [hanswer]
          exact .failed (Failure.message_ne_empty (hnames.faults _ f hfault))
      | none =>
          have hanswer : (w.hand (.sms recipient body) s).1 =
              (w.sendSms recipient body s).1 := by
            simp [hand, answer, collaborator?, hfault, serve]
          rw [hanswer]
          cases hout :
            (w.sms.send (w.smsProvider s.requests) recipient body).outcome with
          | ok outcome =>
              have hsent : (w.sendSms recipient body s).1 = .ok outcome := by
                simp only [sendSms, hout]
                split <;> rfl
              rw [hsent]
              exact w.sms.answered_send (hnames.smsProvider s.requests) hout
          | failed faults =>
              have hsent : (w.sendSms recipient body s).1 =
                  .error (wrongReply faults) := by
                simp only [sendSms, hout]
                split <;> rfl
              have hkind : (wrongReply faults).kind ≠ "" := by simp [wrongReply]
              rw [hsent]
              exact .failed (Failure.message_ne_empty hkind)

end World

end Notices
