import Notices.Proofs.Escape
import Notices.Proofs.Independence
import Notices.Proofs.Stamp
import Notices.Proofs.Weave

/-!
# Steady worlds

In a steady world a reply depends on what is asked for, and not on what
was asked before.  So two programs that ask for the same, each in states
and at times of its own, come to the same and write the same documents,
up to what is generated.

* `World.Alike` says that two programs agree in all the ways in which they can
  go.
* `World.IsSteady.alike_deliver` says that a delivery agrees with itself, and
  `World.IsSteady.alike_branchOn` that a branch of a dispatch does.
-/

namespace Notices

/-! ## Worlds whose replies do not depend on the course of things -/

/-- A world is steady if the replies of the providers depend on
nothing but what they are asked, the id of a mail apart, and writes to
the log all fare the same. -/
structure World.IsSteady (w : World) : Prop where
  mailServer : ∀ m n (s t : Email.Submission), s.unnumbered = t.unnumbered →
    w.mailServer m s = w.mailServer n t
  smsProvider : ∀ m n r, w.smsProvider m r = w.smsProvider n r
  log : w.outage.IsSteady

theorem World.IsSteady.atTime {w : World} (h : w.IsSteady) (now : Timestamp) :
    (w.atTime now).IsSteady :=
  ⟨h.mailServer, h.smsProvider, h.log⟩

namespace Email.Account

/-- A mail has the same fate under all numbers, if the replies do not depend on
them. -/
theorem unnumbered_send (a : Account) {reply other : Submission → Reply}
    (hreply : ∀ s t : Submission, s.unnumbered = t.unnumbered →
      reply s = other t)
    (m n : Nat) (mail : Mail) :
    (a.send reply m mail).outcome.unnumbered .email =
      (a.send other n mail).outcome.unnumbered .email := by
  have hcompose := mail.unnumbered_compose? m n
  unfold send
  cases a.isConfigured with
  | false => rfl
  | true =>
      cases hm : mail.compose? m with
      | error e =>
          cases hn : mail.compose? n with
          | ok message => simp [hm, hn, Except.map] at hcompose
          | error e' =>
              obtain rfl : e = e' := by
                simpa [hm, hn, Except.map] using hcompose
              rfl
      | ok message =>
          cases hn : mail.compose? n with
          | error e => simp [hm, hn, Except.map] at hcompose
          | ok message' =>
              have hsame : message.unnumbered = message'.unnumbered := by
                simpa [hm, hn, Except.map] using hcompose
              have hsubmit : (a.submit message).unnumbered =
                  (a.submit message').unnumbered := by
                simp [submit, Submission.unnumbered, hsame]
              simp only [Bool.not_true, Bool.false_eq_true, if_false,
                hreply _ _ hsubmit]
              cases (other (a.submit message')).failure? <;> rfl

end Email.Account

namespace World

/-! ## Programs that agree in all their ways -/

variable {α β γ δ : Type} {w : World} {moments others : Timestamp → Prop}

/-- Two programs agree if in all ways in which they can go they come to
results that are related and write the same documents, in any order and up
to what is generated. -/
def Alike (w : World) (moments others : Timestamp → Prop)
    (related : α → β → Prop) (p : Program α) (q : Program β) : Prop :=
  ∀ docs docs' result result', w.Goes moments p docs result →
    w.Goes others q docs' result' →
    Agree related result result' ∧
      (docs.map Fields.unstamped).Perm (docs'.map Fields.unstamped)

namespace Alike

variable {related weaker : α → β → Prop} {result : γ → δ → Prop} {p : Program α}
    {q : Program β}

theorem pure {a : α} {b : β} (h : related a b) :
    w.Alike moments others related (Pure.pure a) (Pure.pure b) := by
  intro docs docs' r r' hp hq
  obtain ⟨rfl, rfl⟩ := hp.of_pure
  obtain ⟨rfl, rfl⟩ := hq.of_pure
  exact ⟨.ok h, .refl _⟩

theorem failed (f : Failure) :
    w.Alike moments others related (.failed f) (.failed f) := by
  intro docs docs' r r' hp hq
  cases hp
  cases hq
  exact ⟨.error f, .refl _⟩

/-- Sequences agree if their first parts do and the rests do on all values
that these may come to. -/
theorem bind {k : α → Program γ} {l : β → Program δ}
    (hfirst : w.Alike moments others related p q)
    (hrest : ∀ a b, related a b → w.Alike moments others result (k a) (l b)) :
    w.Alike moments others result (p >>= k) (q >>= l) := by
  intro docs docs' r r' hp hq
  rcases hp.of_bind with ⟨f, hpf, rfl⟩ | ⟨a, front, back, rfl, hpa, hka⟩
  · rcases hq.of_bind with ⟨g, hqg, rfl⟩ | ⟨b, front', back', rfl, hqb, hlb⟩
    · obtain ⟨hagree, hdocs⟩ := hfirst _ _ _ _ hpf hqg
      cases hagree
      exact ⟨.error f, hdocs⟩
    · cases (hfirst _ _ _ _ hpf hqb).1
  · rcases hq.of_bind with ⟨g, hqg, rfl⟩ | ⟨b, front', back', rfl, hqb, hlb⟩
    · cases (hfirst _ _ _ _ hpa hqg).1
    · obtain ⟨hagree, hdocs⟩ := hfirst _ _ _ _ hpa hqb
      cases hagree with
      | ok h =>
          obtain ⟨hresult, hmore⟩ := hrest a b h _ _ _ _ hka hlb
          rw [List.map_append, List.map_append]
          exact ⟨hresult, hdocs.append hmore⟩

theorem attempt (h : w.Alike moments others related p q) :
    w.Alike moments others (Agree related) p.attempt q.attempt := by
  intro docs docs' r r' hp hq
  obtain ⟨a, rfl, hpa⟩ := hp.of_attempt
  obtain ⟨b, rfl, hqb⟩ := hq.of_attempt
  obtain ⟨hagree, hdocs⟩ := h _ _ _ _ hpa hqb
  exact ⟨.ok hagree, hdocs⟩

theorem mono (h : w.Alike moments others related p q)
    (himp : ∀ a b, related a b → weaker a b) :
    w.Alike moments others weaker p q := by
  intro docs docs' r r' hp hq
  obtain ⟨hagree, hdocs⟩ := h _ _ _ _ hp hq
  exact ⟨hagree.mono himp, hdocs⟩

end Alike

/-! ## The steps of a call -/

/-- A request that is answered alike in all states and at all times, without any
change, goes one way. -/
theorem goes_of_read {r : Request} {found answer : Except Failure r.Answer}
    {docs : List Fields}
    (hread : ∀ now s, (w.atTime now).answer s r = (found, s))
    (h : w.Goes moments (Program.call r) docs answer) :
    answer = found ∧ docs = [] := by
  obtain ⟨s, now, -, rfl, hlog⟩ := h.of_call
  rw [hread] at hlog ⊢
  exact ⟨rfl, by simpa using hlog⟩

/-- A request that is answered alike in all states and at all times, without any
change, agrees with itself. -/
theorem alike_of_read {r : Request} (found : Except Failure r.Answer)
    (hread : ∀ now s, (w.atTime now).answer s r = (found, s)) :
    w.Alike moments others Eq (Program.call r) (Program.call r) := by
  intro docs docs' a a' h h'
  obtain ⟨rfl, rfl⟩ := goes_of_read hread h
  obtain ⟨rfl, rfl⟩ := goes_of_read hread h'
  exact ⟨.of_eq rfl, .refl _⟩

/-- What a course says of a request is how it is answered. -/
theorem answer_of_course {w : World} {r : Request} {s : State}
    {c : Course r.Answer} (h : w.course (Program.call r) s = c) :
    w.answer s r = (c.result, c.after) := by
  rw [course_call] at h
  subst h
  rfl

/-- The settings that are read are the same. -/
theorem alike_settings :
    w.Alike moments others Eq (Program.call .settings)
      (Program.call .settings) :=
  alike_of_read (unlessFault (w.faults .settings) w.settings?)
    fun now s => answer_of_course ((w.atTime now).course_settings s)

/-- The template that is read is the same. -/
theorem alike_template (channel : Channel) (trigger : String) :
    w.Alike moments others Eq (Program.call (.template channel trigger))
      (Program.call (.template channel trigger)) :=
  alike_of_read (unlessFault (w.faults .template) (w.template? channel trigger))
    fun now s =>
      answer_of_course ((w.atTime now).course_template channel trigger s)

/-- What a collaborator answers is what it finds, unless it fails. -/
theorem unlessFault_eq_ok {fault : Option Failure} {found a : α}
    (h : unlessFault fault found = .ok a) :
    found = a := by
  cases fault with
  | none => exact Except.ok.inj h
  | some f => cases h

/-- A template is answered by its id alike in all states and at all times. -/
theorem answer_templateById (w : World) (id : String) (now : Timestamp)
    (s : State) :
    (w.atTime now).answer s (.templateById id) =
      (unlessFault (w.faults .templateById) (w.templateById? id), s) :=
  answer_of_course ((w.atTime now).course_templateById id s)

/-- What is answered to a mail is what its account made of it,
unless the client fails. -/
theorem hand_email (w : World) (mail : Email.Mail) (s : State) :
    (w.hand (.email mail) s).1 = unlessFault (w.faults .email)
      (w.email.send (w.mailServer s.submissions)
        (s.mailNumber + 1) mail).outcome := by
  simp only [hand, answer, collaborator?, Option.bind_some, serve, sendEmail_eq]
  cases w.faults .email <;> rfl

/-- What is answered to a text message in a steady world depends on no state. -/
theorem IsSteady.hand_sms (hsteady : w.IsSteady) (recipient body : String)
    (s t : State) :
    (w.hand (.sms recipient body) s).1 =
      (w.hand (.sms recipient body) t).1 := by
  have hprovider : w.smsProvider s.requests = w.smsProvider t.requests :=
    funext fun r => hsteady.smsProvider _ _ r
  simp only [hand, answer, collaborator?, Option.bind_some, serve, sendSms_eq,
    hprovider]
  cases w.faults .sms <;> rfl

/-- What is answered to a letter in a steady world depends on no state,
the id of a mail apart. -/
theorem IsSteady.agree_hand (hsteady : w.IsSteady) (l : Letter) (s t : State) :
    Agree (fun a b => a.unnumbered l.channel = b.unnumbered l.channel)
      (w.hand l s).1 (w.hand l t).1 := by
  cases l with
  | email mail =>
      rw [hand_email, hand_email]
      exact .unlessFault rfl
        (w.email.unnumbered_send (hsteady.mailServer _ _) _ _ mail)
  | sms recipient body =>
      exact (Agree.of_eq (hsteady.hand_sms recipient body s t)).mono
        fun _ _ heq => congrArg _ heq

/-- The way of a letter is what is answered to it at some time in some state. -/
theorem goes_hand {l : Letter} {docs : List Fields}
    {result : Except Failure Outcome} (h : w.Goes moments l.hand docs result) :
    ∃ now s, result = ((w.atTime now).hand l s).1 ∧ docs = [] := by
  have hlog : ∀ {now s}, ((w.atTime now).hand l s).2.log = s.log ++ docs →
      docs = [] := by
    intro now s hdocs
    rw [log_hand] at hdocs
    simpa using hdocs
  cases l with
  | email mail =>
      obtain ⟨s, now, -, rfl, hdocs⟩ := Goes.of_call h
      exact ⟨now, s, rfl, hlog hdocs⟩
  | sms recipient body =>
      obtain ⟨s, now, -, rfl, hdocs⟩ := Goes.of_call h
      exact ⟨now, s, rfl, hlog hdocs⟩

/-- A letter has the same fate. -/
theorem IsSteady.alike_hand (hsteady : w.IsSteady) (l : Letter) :
    w.Alike moments others (fun a b => a.unnumbered l.channel =
      b.unnumbered l.channel) l.hand l.hand := by
  intro docs docs' a a' h h'
  obtain ⟨now, s, rfl, rfl⟩ := goes_hand h
  obtain ⟨now', t, rfl, rfl⟩ := goes_hand h'
  have hclock : ((w.atTime now').hand l t).1 = ((w.atTime now).hand l t).1 := by
    cases l <;> rfl
  rw [hclock]
  exact ⟨(hsteady.atTime now).agree_hand l s t, .refl _⟩

/-- The log behind an attempt that was to be recorded has its document, unless
the log or the write failed. -/
theorem log_answer_record (w : World) (attempt : Attempt) (s : State) :
    (w.answer s (.record attempt)).2.log = s.log ++
      if (w.faults .log).isSome || w.outage.writeLog s.writes then []
      else [(attempt.stamp (w.logIds s.writes) w.now).toFields] := by
  simp only [answer, collaborator?, Option.bind_some]
  cases w.faults .log with
  | some f => simp
  | none =>
      simp only [serve, record_after, Option.isSome_none, Bool.false_or]

/-- Attempts whose documents are the same are recorded alike. -/
theorem IsSteady.alike_record (hsteady : w.IsSteady) {attempt other : Attempt}
    (hsame : ∀ id id' now now', (attempt.stamp id now).toFields.unstamped =
      (other.stamp id' now').toFields.unstamped) :
    w.Alike moments others Eq (Program.call (.record attempt))
      (Program.call (.record other)) := by
  intro docs docs' a a' h h'
  obtain ⟨s, now, -, rfl, hdocs⟩ := h.of_call
  obtain ⟨t, now', -, rfl, hdocs'⟩ := h'.of_call
  have hwrite : (w.atTime now).outage.writeLog s.writes =
      (w.atTime now').outage.writeLog t.writes :=
    hsteady.log s.writes t.writes
  have hfault : (w.atTime now).faults = (w.atTime now').faults := rfl
  rw [log_answer_record, hfault, hwrite] at hdocs
  rw [log_answer_record] at hdocs'
  obtain rfl := List.append_cancel_left hdocs
  obtain rfl := List.append_cancel_left hdocs'
  rw [result_record, result_record, hfault, hwrite]
  refine ⟨.of_eq rfl, .of_eq ?_⟩
  split
  · rfl
  · simp only [List.map_cons, List.map_nil, List.cons.injEq, and_true]
    exact hsame _ _ _ _

/-- A letter is delivered alike. -/
theorem IsSteady.alike_deliver (hsteady : w.IsSteady) (l : Letter)
    (templateId : String) (links : Except Failure Links) :
    w.Alike moments others
      (fun a b => a.unnumbered l.channel = b.unnumbered l.channel)
      (l.deliver templateId links) (l.deliver templateId links) := by
  unfold Letter.deliver
  refine (hsteady.alike_hand l).attempt.bind fun answer answer' hagree => ?_
  have houtcome : (Notice.outcomeOf answer).unnumbered l.channel =
      (Notice.outcomeOf answer').unnumbered l.channel := by
    cases hagree with
    | ok h => exact h
    | error f => rfl
  cases links with
  | error f => exact .failed f
  | ok links =>
      have hrecord : w.Alike moments others Eq
          (Program.call
            (.record (l.attempt templateId links (Notice.outcomeOf answer))))
          (Program.call
            (.record
              (l.attempt templateId links (Notice.outcomeOf answer')))) :=
        hsteady.alike_record fun id id' now now' =>
          l.unstamped_attempt templateId links houtcome id id' now now'
      exact hrecord.bind fun _ _ _ => .pure houtcome

/-- A trigger without a switch is reported alike. -/
theorem alike_unknownTrigger (trigger : String) :
    w.Alike moments others Eq (Program.call (.unknownTrigger trigger))
      (Program.call (.unknownTrigger trigger)) := by
  have hway : ∀ {moments docs answer},
      w.Goes moments (Program.call (.unknownTrigger trigger)) docs answer →
      answer = (w.reportUnknown trigger {}).1 ∧ docs = [] := by
    intro moments docs answer h
    obtain ⟨s, now, -, rfl, hlog⟩ := h.of_call
    rw [log_answer_of_ne _ _ (by simp)] at hlog
    refine ⟨?_, by simpa using hlog⟩
    simp only [answer, collaborator?, Option.bind_none, serve, reportUnknown,
      atTime]
    cases w.hook <;> rfl
  intro docs docs' a a' h h'
  obtain ⟨rfl, rfl⟩ := hway h
  obtain ⟨rfl, rfl⟩ := hway h'
  exact ⟨.of_eq rfl, .refl _⟩

/-- Whether a trigger is allowed is the same. -/
theorem alike_isAllowed (settings : Settings) (trigger : String) :
    w.Alike moments others Eq (Dispatch.isAllowed settings trigger)
      (Dispatch.isAllowed settings trigger) := by
  unfold Dispatch.isAllowed
  cases Trigger.ofWord? trigger with
  | some t => exact .pure rfl
  | none =>
      exact (alike_unknownTrigger trigger).attempt.bind fun _ _ _ => .pure rfl

variable {channel : Channel} {trigger : String} {context : Fields}
    {settings : Settings}
  {options : SendOptions}

/-- What is posted has the same fate. -/
theorem IsSteady.alike_post (hsteady : w.IsSteady) (template : Template)
    (recipient : Value) :
    w.Alike moments others
      (fun a b => a.unnumbered channel = b.unnumbered channel)
      (Dispatch.post channel context settings template recipient)
      (Dispatch.post channel context settings template recipient) := by
  rcases Dispatch.post_cases channel context settings template recipient with
    ⟨l, hchannel, hpost⟩ | hpost
  · have hdeliver : w.Alike moments others
        (fun a b => a.unnumbered l.channel = b.unnumbered l.channel)
        (l.deliver template.id (Links.ofContext context))
        (l.deliver template.id (Links.ofContext context)) :=
      hsteady.alike_deliver l template.id (Links.ofContext context)
    rw [hchannel] at hdeliver
    exact hpost ▸ hdeliver
  · exact hpost ▸ .failed _

/-- What is sent on a channel has the same fate. -/
theorem IsSteady.alike_sendOn (hsteady : w.IsSteady) :
    w.Alike moments others
      (fun a b => a.unnumbered channel = b.unnumbered channel)
      (Dispatch.sendOn channel trigger context settings options)
      (Dispatch.sendOn channel trigger context settings options) := by
  unfold Dispatch.sendOn Dispatch.usableTemplate
  refine ((alike_template channel trigger).bind fun _ _ heq =>
    .pure (congrArg _ heq)).bind ?_
  rintro template _ rfl
  cases template with
  | none => exact .pure rfl
  | some template =>
      dsimp only
      cases Dispatch.recipient? (channel.forced options) context
        channel.contactField with
      | none => exact .pure rfl
      | some recipient => exact hsteady.alike_post template recipient

/-- The branch of a channel comes to the same. -/
theorem IsSteady.alike_branchOn (hsteady : w.IsSteady) :
    w.Alike moments others
      (fun a b => a.map (Outcome.unnumbered channel) =
        b.map (Outcome.unnumbered channel))
      (Dispatch.branchOn channel trigger context settings options)
      (Dispatch.branchOn channel trigger context settings options) := by
  unfold Dispatch.branchOn Dispatch.branch
  split
  · refine hsteady.alike_sendOn.attempt.bind
      fun answer answer' hagree => .pure ?_
    cases hagree with
    | ok h => exact congrArg some h
    | error f => rfl
  · exact .pure rfl

/-- A branch never fails. -/
theorem goes_branchOn {docs : List Fields}
    {result : Except Failure (Option Outcome)}
    (h : w.Goes moments
      (Dispatch.branchOn channel trigger context settings options)
        docs result) :
    ∃ outcome, result = .ok outcome := by
  unfold Dispatch.branchOn Dispatch.branch at h
  split at h
  · rcases h.of_bind with ⟨f, hfailed, -⟩ | ⟨caught, front, back, -, -, hback⟩
    · obtain ⟨_, hcaught, -⟩ := hfailed.of_attempt
      cases hcaught
    · exact ⟨_, hback.of_pure.2⟩
  · exact ⟨_, h.of_pure.2⟩

end World

end Notices
