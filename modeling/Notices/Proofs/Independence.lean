import Notices.Proofs.Side

/-!
# The channels are independent

What a dispatch does on one channel is the same in any two worlds that
differ at most on the side of the other one.  The two runs are followed
side by side, and after each pair of steps their states are alike as far as
the channel is concerned.

* `State.AlikeOn` says when two states are alike on a channel.
* `World.RunAlike` says that two programs, each in its world, keep states alike
  and come to related results.
* `World.runAlike_branchOn` and `World.alikeOn_branchOn` are about the
  branch of the channel and that of the other one, and
  `World.runAlike_dispatch` puts them together.
* `channels_are_independent` says it of a dispatch, and that a dispatch on both
  channels is a dispatch on the one together with a dispatch on the other.
-/

namespace Notices

/-! ## States that are alike on a channel -/

/-- Whether an event is the use of the provider of a channel. -/
def Event.isOn (channel : Channel) : Event → Bool
  | .submitted _ => channel = .email
  | .requested _ => channel = .sms
  | .logged _ => false
  | .unknownTrigger _ => false

/-- Writes to the log all fail, or none of them does. -/
def Outage.IsSteady (o : Outage) : Prop := ∀ m n, o.writeLog m = o.writeLog n

namespace State

/-- What was handed to the provider of a channel. -/
def trafficOn (s : State) (channel : Channel) : List Event :=
  s.events.filter (·.isOn channel)

/-- The documents of a channel in the log, but for the ids that the log gives
them. -/
def documentsOn (s : State) (channel : Channel) : List Fields :=
  (s.log.filter (Store.hasText "type" channel.word)).map
    (Fields.erase · "log_id")

/-- Two states are alike on a channel if its provider was used in the same
way and the log has the same documents of it.  The log counts only if its
writes all fare the same. -/
structure AlikeOn (channel : Channel) (outage : Outage) (s t : State) :
    Prop where
  mails : channel = .email →
    s.mailNumber = t.mailNumber ∧ s.submissions = t.submissions
  texts : channel = .sms → s.requests = t.requests
  traffic : s.trafficOn channel = t.trafficOn channel
  documents : outage.IsSteady → s.documentsOn channel = t.documentsOn channel

variable {channel : Channel} {outage : Outage} {s t u : State}

theorem AlikeOn.refl (channel : Channel) (outage : Outage) (s : State) :
    s.AlikeOn channel outage s :=
  ⟨fun _ => ⟨rfl, rfl⟩, fun _ => rfl, rfl, fun _ => rfl⟩

theorem AlikeOn.symm (h : s.AlikeOn channel outage t) :
    t.AlikeOn channel outage s :=
  ⟨fun he => ⟨(h.mails he).1.symm, (h.mails he).2.symm⟩,
    fun he => (h.texts he).symm, h.traffic.symm,
    fun hsteady => (h.documents hsteady).symm⟩

theorem AlikeOn.trans (h : s.AlikeOn channel outage t)
    (h' : t.AlikeOn channel outage u) :
    s.AlikeOn channel outage u :=
  ⟨fun he =>
    ⟨(h.mails he).1.trans (h'.mails he).1,
      (h.mails he).2.trans (h'.mails he).2⟩,
    fun he => (h.texts he).trans (h'.texts he), h.traffic.trans h'.traffic,
    fun hsteady => (h.documents hsteady).trans (h'.documents hsteady)⟩

/-- An event that was put down is traffic of a channel if it is the use of its
provider. -/
@[simp] theorem trafficOn_put (s : State) (e : Event) (channel : Channel) :
    (s.put e).trafficOn channel = s.trafficOn channel ++
      if e.isOn channel then [e] else [] := by
  unfold trafficOn put
  rw [List.filter_append]
  cases he : e.isOn channel <;> simp [he]

/-- States that are alike stay so if the same trigger is reported as unknown. -/
theorem AlikeOn.put_unknownTrigger (h : s.AlikeOn channel outage t)
    (trigger : String) :
    (s.put (.unknownTrigger trigger)).AlikeOn channel outage
      (t.put (.unknownTrigger trigger)) :=
  ⟨h.mails, h.texts, by simpa [Event.isOn] using h.traffic, h.documents⟩

end State

/-- What the log takes is traffic of no channel. -/
theorem filter_map_logged (docs : List Fields) (channel : Channel) :
    (docs.map Event.logged).filter (·.isOn channel) = [] := by
  simp [List.filter_map, Function.comp_def, Event.isOn]

/-! ## Answers that are alike -/

namespace World

variable {side channel : Channel} {w v : World} {outage : Outage} {s t : State}

/-- What becomes of a mail, and the state behind it: a number may be used up,
and a submission is put down. -/
theorem sendEmail_eq (w : World) (mail : Email.Mail) (s : State) :
    let sent :=
      w.email.send (w.mailServer s.submissions) (s.mailNumber + 1) mail
    w.sendEmail mail s = (sent.outcome, { s with
      mailNumber :=
        if w.email.usesNumber mail then s.mailNumber + 1 else s.mailNumber
      submissions := s.submissions + sent.submission.toList.length
      events := s.events ++ sent.submission.toList.map .submitted }) := by
  intro sent
  unfold sendEmail
  cases huses : w.email.usesNumber mail <;> cases hsent : sent.submission <;>
    simp [sent, hsent, State.put]

/-- What becomes of a text message by what was read of the reply: a reply that
is not what it should be counts as a failure of the client. -/
def smsOutcome : Checked Outcome → Except Failure Outcome
  | .ok outcome => .ok outcome
  | .failed faults => .error (wrongReply faults)

/-- What becomes of a text message, and the state behind it: a request is put
down. -/
theorem sendSms_eq (w : World) (recipient body : String) (s : State) :
    let sent := w.sms.send (w.smsProvider s.requests) recipient body
    w.sendSms recipient body s = (smsOutcome sent.outcome, { s with
      requests := s.requests + sent.request.toList.length
      events := s.events ++ sent.request.toList.map .requested }) := by
  intro sent
  unfold sendSms
  cases hrequest : sent.request <;> cases houtcome : sent.outcome <;>
    simp [sent, hrequest, houtcome, smsOutcome, State.put]

/-- Two worlds with the same account at the same mail server send a mail
alike. -/
theorem sendEmail_alike
    (hmail : w.email = v.email ∧ w.mailServer = v.mailServer)
    (h : s.AlikeOn .email outage t) (mail : Email.Mail) :
    (w.sendEmail mail s).1 = (v.sendEmail mail t).1 ∧
      (w.sendEmail mail s).2.AlikeOn .email outage (v.sendEmail mail t).2 := by
  obtain ⟨hnumber, hcount⟩ := h.mails rfl
  rw [sendEmail_eq, sendEmail_eq, hmail.1, hmail.2, hnumber, hcount]
  exact ⟨rfl, {
    mails := fun _ => ⟨rfl, rfl⟩
    texts := nofun
    traffic := by simpa [State.trafficOn] using h.traffic
    documents := h.documents }⟩

/-- Two worlds with the same account at the same SMS provider send a text
message alike. -/
theorem sendSms_alike (htexts : w.sms = v.sms ∧ w.smsProvider = v.smsProvider)
    (h : s.AlikeOn .sms outage t) (recipient body : String) :
    (w.sendSms recipient body s).1 = (v.sendSms recipient body t).1 ∧
      (w.sendSms recipient body s).2.AlikeOn .sms outage
        (v.sendSms recipient body t).2 := by
  have hcount := h.texts rfl
  rw [sendSms_eq, sendSms_eq, htexts.1, htexts.2, hcount]
  exact ⟨rfl, {
    mails := nofun
    texts := fun _ => rfl
    traffic := by simpa [State.trafficOn] using h.traffic
    documents := h.documents }⟩

/-- The clients of the other channel fail alike in two worlds that differ on a
side. -/
theorem DiffersOn.faults_client (h : w.DiffersOn side v)
    (hne : channel ≠ side) :
    w.faults channel.client = v.faults channel.client :=
  h.faults _ fun heq =>
    hne (by cases channel <;> cases side <;> first | rfl | cases heq)

/-- A letter has the same fate in two worlds that differ on the side
of the other channel. -/
theorem hand_alike (h : w.DiffersOn side v) {l : Letter}
    (hne : l.channel ≠ side) (halike : s.AlikeOn l.channel outage t) :
    (w.hand l s).1 = (v.hand l t).1 ∧
    (w.hand l s).2.AlikeOn l.channel outage (v.hand l t).2 := by
  have hfault := h.faults_client hne
  cases l with
  | email mail =>
      have hfault : w.faults .email = v.faults .email := hfault
      simp only [hand, answer, collaborator?, Option.bind_some, hfault]
      cases v.faults .email with
      | some f => exact ⟨rfl, halike⟩
      | none =>
          obtain ⟨hsame, hafter⟩ :=
            sendEmail_alike (h.mail hne.symm) halike mail
          exact ⟨congrArg Except.ok hsame, hafter⟩
  | sms recipient body =>
      have hfault : w.faults .sms = v.faults .sms := hfault
      simp only [hand, answer, collaborator?, Option.bind_some, hfault]
      cases v.faults .sms with
      | some f => exact ⟨rfl, halike⟩
      | none => exact sendSms_alike (h.texts hne.symm) halike recipient body

/-- A letter of the other channel is not seen on a channel. -/
theorem alikeOn_hand (w : World) {l : Letter} (hne : l.channel ≠ channel)
    (outage : Outage) (s : State) :
    s.AlikeOn channel outage (w.hand l s).2 := by
  cases l with
  | email mail =>
      have hother : channel ≠ .email := hne.symm
      simp only [hand, answer, collaborator?, Option.bind_some]
      cases w.faults .email with
      | some f => exact .refl channel outage s
      | none =>
          simp only [serve]
          rw [sendEmail_eq]
          exact {
            mails := fun he => absurd he hother
            texts := fun _ => rfl
            traffic := by
              simp [State.trafficOn, List.filter_map, Function.comp_def,
                Event.isOn, hother]
            documents := fun _ => rfl }
  | sms recipient body =>
      have hother : channel ≠ .sms := hne.symm
      simp only [hand, answer, collaborator?, Option.bind_some]
      cases w.faults .sms with
      | some f => exact .refl channel outage s
      | none =>
          simp only [serve]
          rw [sendSms_eq]
          exact {
            mails := fun _ => ⟨rfl, rfl⟩
            texts := fun he => absurd he hother
            traffic := by
              simp [State.trafficOn, List.filter_map, Function.comp_def,
                Event.isOn, hother]
            documents := fun _ => rfl }

/-- The state behind an attempt that was recorded: it has the document,
unless the write failed. -/
theorem record_after (w : World) (attempt : Attempt) (s : State) :
    let written := if w.outage.writeLog s.writes then []
      else [(attempt.stamp (w.logIds s.writes) w.now).toFields]
    (w.record attempt s).2 = { s with
      log := s.log ++ written
      writes := s.writes + 1
      events := s.events ++ written.map .logged } := by
  intro written
  unfold record
  cases hwrite : w.outage.writeLog s.writes <;>
    simp [written, hwrite, State.put]

/-- An attempt is recorded alike in two worlds that differ on a side, up to
the id of its document. -/
theorem record_alike (h : w.DiffersOn side v) (attempt : Attempt)
    (halike : s.AlikeOn channel w.outage t) :
    (w.record attempt s).2.AlikeOn channel w.outage (v.record attempt t).2 := by
  rw [record_after, record_after, ← h.outage, ← h.now]
  refine ⟨halike.mails, halike.texts, ?_, fun hsteady => ?_⟩
  · simpa [State.trafficOn, filter_map_logged] using halike.traffic
  · have hbefore := halike.documents hsteady
    unfold State.documentsOn at hbefore ⊢
    rw [hsteady s.writes t.writes, List.filter_append, List.map_append, hbefore,
      List.filter_append, List.map_append]
    congr 1
    cases w.outage.writeLog t.writes with
    | true => rfl
    | false =>
        simp only [Bool.false_eq_true, if_false, List.filter_cons,
          Store.hasText_type_toFields, List.filter_nil]
        by_cases hc : attempt.channel = channel
        · simp only [Attempt.stamp, hc, decide_true, if_true, List.map_cons,
            List.map_nil]
          rfl
        · simp [Attempt.stamp, hc]

/-- An attempt on the other channel is not seen on a channel. -/
theorem alikeOn_record (w : World) {attempt : Attempt}
    (hne : attempt.channel ≠ channel) (outage : Outage) (s : State) :
    s.AlikeOn channel outage (w.record attempt s).2 := by
  rw [record_after]
  refine ⟨fun _ => ⟨rfl, rfl⟩, fun _ => rfl, ?_, fun _ => ?_⟩
  · simp [State.trafficOn, filter_map_logged]
  · unfold State.documentsOn
    cases w.outage.writeLog s.writes with
    | true => simp
    | false => simp [Store.hasText_type_toFields, Attempt.stamp, hne]

end World

/-! ## Programs that run alike -/

/-- Two results agree if they are values that are related, or the same
failure. -/
inductive Agree {α β : Type} (related : α → β → Prop) :
    Except Failure α → Except Failure β → Prop
  | ok {a : α} {b : β} (h : related a b) : Agree related (.ok a) (.ok b)
  | error (f : Failure) : Agree related (.error f) (.error f)

namespace Agree

variable {α β : Type} {related weaker : α → β → Prop}

theorem eq {a b : Except Failure α} (h : Agree Eq a b) : a = b := by
  cases h with
  | ok h => exact congrArg Except.ok h
  | error f => rfl

theorem of_eq {a b : Except Failure α} (h : a = b) : Agree Eq a b := by
  subst h
  cases a with
  | ok a => exact .ok rfl
  | error f => exact .error f

theorem mono {a : Except Failure α} {b : Except Failure β}
    (h : Agree related a b) (himp : ∀ a b, related a b → weaker a b) :
    Agree weaker a b := by
  cases h with
  | ok h => exact .ok (himp _ _ h)
  | error f => exact .error f

/-- Results that agree still do when their values are taken further. -/
theorem map {γ δ : Type} {further : γ → δ → Prop} {f : α → γ} {g : β → δ}
    {a : Except Failure α} {b : Except Failure β} (h : Agree related a b)
    (himp : ∀ a b, related a b → further (f a) (g b)) :
    Agree further (a.map f) (b.map g) := by
  cases h with
  | ok h => exact .ok (himp _ _ h)
  | error f => exact .error f

/-- Results that agree on having the same image have the same image. -/
theorem map_eq {γ : Type} {f : α → γ} {g : β → γ} {a : Except Failure α}
    {b : Except Failure β} (h : Agree (fun a b => f a = g b) a b) :
    a.map f = b.map g := by
  cases h with
  | ok h => exact congrArg Except.ok h
  | error f => rfl

/-- What collaborators find agrees if it is related, or if they fail alike. -/
theorem unlessFault {fault fault' : Option Failure} {a : α} {b : β}
    (hfault : fault = fault') (h : related a b) :
    Agree related (World.unlessFault fault a) (World.unlessFault fault' b) := by
  subst hfault
  cases fault with
  | none => exact .ok h
  | some f => exact .error f

end Agree

namespace World

variable {α β γ δ : Type} {side channel : Channel} {w v : World}

/-- Two programs, each in its world, run alike as far as a channel is concerned:
from states that are alike on it they come to results that agree and to states
that are alike on it. -/
def RunAlike (w v : World) (channel : Channel) (related : α → β → Prop)
    (p : Program α) (q : Program β) : Prop :=
  ∀ s t, s.AlikeOn channel w.outage t →
    Agree related (w.course p s).result (v.course q t).result ∧
      (w.course p s).after.AlikeOn channel w.outage (v.course q t).after

namespace RunAlike

variable {related weaker : α → β → Prop} {result : γ → δ → Prop} {p : Program α}
    {q : Program β}

theorem pure {a : α} {b : β} (h : related a b) :
    RunAlike w v channel related (Pure.pure a) (Pure.pure b) :=
  fun _ _ halike => ⟨.ok h, halike⟩

/-- Sequences run alike if their first parts do and the rests do on all values
that these may come to. -/
theorem bind {k : α → Program γ} {l : β → Program δ}
    (hfirst : RunAlike w v channel related p q)
    (hrest : ∀ a b, related a b → RunAlike w v channel result (k a) (l b)) :
    RunAlike w v channel result (p >>= k) (q >>= l) := by
  intro s t halike
  obtain ⟨hagree, hafter⟩ := hfirst s t halike
  rw [course_bind, course_bind]
  rcases hp : w.course p s with ⟨pres, _, pafter⟩
  rcases hq : v.course q t with ⟨qres, _, qafter⟩
  rw [hp, hq] at hagree hafter
  generalize hpres : pres = a, hqres : qres = b at hagree
  cases hagree with
  | ok h => exact hrest _ _ h _ _ hafter
  | error f => exact ⟨.error f, hafter⟩

theorem failed (f : Failure) :
    RunAlike w v channel related (.failed f) (.failed f) :=
  fun _ _ halike => ⟨.error f, halike⟩

theorem attempt (h : RunAlike w v channel related p q) :
    RunAlike w v channel (Agree related) p.attempt q.attempt := by
  intro s t halike
  obtain ⟨hagree, hafter⟩ := h s t halike
  rw [course_attempt, course_attempt]
  exact ⟨.ok hagree, hafter⟩

/-- Programs that run alike do so with anything weaker said of what they come
to. -/
theorem mono (h : RunAlike w v channel related p q)
    (himp : ∀ a b, related a b → weaker a b) :
    RunAlike w v channel weaker p q :=
  fun s t halike => ⟨(h s t halike).1.mono himp, (h s t halike).2⟩

end RunAlike

/-! ## The steps of a dispatch -/

/-- The settings that are read differ on the side. -/
theorem runAlike_settings (h : w.DiffersOn side v) :
    RunAlike w v channel (Option.Rel (Settings.SameBut side))
      (Program.call .settings)
      (Program.call .settings) := by
  intro s t halike
  rw [course_settings, course_settings]
  exact ⟨.unlessFault (h.faults _ (by cases side <;> decide)) h.settings?,
    halike⟩

/-- The template that is read is the same. -/
theorem runAlike_template (h : w.DiffersOn side v) (hne : channel ≠ side)
    (trigger : String) :
    RunAlike w v channel Eq (Program.call (.template channel trigger))
      (Program.call (.template channel trigger)) := by
  intro s t halike
  rw [course_template, course_template]
  exact ⟨.unlessFault (h.faults _ (by cases side <;> decide))
    (h.template? hne trigger), halike⟩

/-- A trigger without a switch is reported alike. -/
theorem runAlike_unknownTrigger (h : w.DiffersOn side v) (trigger : String) :
    RunAlike w v channel Eq (Program.call (.unknownTrigger trigger))
      (Program.call (.unknownTrigger trigger)) := by
  intro s t halike
  have hput := halike.put_unknownTrigger trigger
  rw [course_call, course_call]
  simp only [Course.ofAnswer, answer, collaborator?, Option.bind_none, serve,
    reportUnknown, h.hook]
  cases v.hook with
  | absent => exact ⟨.ok rfl, halike⟩
  | records => exact ⟨.ok rfl, hput⟩
  | fails f => exact ⟨.error f, hput⟩

/-- Whether a trigger is allowed is the same. -/
theorem runAlike_isAllowed (h : w.DiffersOn side v) {settings other : Settings}
    (hsame : settings.SameBut side other) (trigger : String) :
    RunAlike w v channel Eq (Dispatch.isAllowed settings trigger)
      (Dispatch.isAllowed other trigger) := by
  have hpermits := hsame.permits trigger
  unfold Settings.permits at hpermits
  unfold Dispatch.isAllowed
  cases hword : Trigger.ofWord? trigger with
  | some t => exact .pure (by simpa [hword] using hpermits)
  | none =>
      exact (runAlike_unknownTrigger h trigger).attempt.bind
        fun _ _ _ => .pure rfl

/-- A letter has the same fate. -/
theorem runAlike_hand (h : w.DiffersOn side v) {l : Letter}
    (hne : l.channel ≠ side) :
    RunAlike w v l.channel Eq l.hand l.hand := by
  intro s t halike
  rw [course_hand, course_hand]
  obtain ⟨hsame, hafter⟩ := hand_alike h hne halike
  exact ⟨.of_eq hsame, hafter⟩

/-- An attempt is recorded in both worlds. -/
theorem runAlike_record (h : w.DiffersOn side v) (attempt : Attempt) :
    RunAlike w v channel (fun _ _ => True) (Program.call (.record attempt))
      (Program.call (.record attempt)) := by
  intro s t halike
  have hfault := h.faults .log (by cases side <;> decide)
  rw [course_call, course_call]
  simp only [Course.ofAnswer, answer, collaborator?, Option.bind_some, hfault]
  cases v.faults .log with
  | some f => exact ⟨.error f, halike⟩
  | none => exact ⟨.ok trivial, record_alike h attempt halike⟩

/-- A letter is delivered alike. -/
theorem runAlike_deliver (h : w.DiffersOn side v) {l : Letter}
    (hne : l.channel ≠ side) (templateId : String)
    (links : Except Failure Links) :
    RunAlike w v l.channel Eq (l.deliver templateId links)
      (l.deliver templateId links) := by
  unfold Letter.deliver
  refine (runAlike_hand h hne).attempt.bind fun answer other hagree => ?_
  obtain rfl := hagree.eq
  cases links with
  | error f => exact .failed f
  | ok links => exact (runAlike_record h _).bind fun _ _ _ => .pure rfl

/-- What is posted is delivered alike, or it cannot be written. -/
theorem runAlike_post (h : w.DiffersOn side v) (hne : channel ≠ side)
    (context : Fields) (settings : Settings) (template : Template)
    (recipient : Value) :
    RunAlike w v channel Eq
      (Dispatch.post channel context settings template recipient)
      (Dispatch.post channel context settings template recipient) := by
  rcases Dispatch.post_cases channel context settings template recipient with
    ⟨l, hchannel, hpost⟩ | hpost
  · have hdeliver := runAlike_deliver h (l := l) (by rwa [hchannel]) template.id
      (Links.ofContext context)
    rw [hchannel] at hdeliver
    exact hpost ▸ hdeliver
  · exact hpost ▸ .failed _

/-! ## The branches of a dispatch -/

variable {settings other : Settings} {options restricted : SendOptions}
    {trigger : String}
  {context : Fields}

/-- The branch of a channel sends the same if what it uses differs on the other
side. -/
theorem runAlike_sendOn (h : w.DiffersOn side v) (hne : channel ≠ side)
    (hsame : settings.SameBut side other)
    (hoptions : options.DiffersOn side restricted) :
    RunAlike w v channel Eq
      (Dispatch.sendOn channel trigger context settings options)
      (Dispatch.sendOn channel trigger context other restricted) := by
  unfold Dispatch.sendOn Dispatch.usableTemplate
  refine ((runAlike_template h hne trigger).bind fun _ _ heq =>
    .pure (congrArg _ heq)).bind ?_
  rintro template _ rfl
  cases template with
  | none => exact .pure rfl
  | some template =>
      rw [(hoptions channel hne).2]
      dsimp only
      cases Dispatch.recipient? (channel.forced restricted) context
        channel.contactField with
      | none => exact .pure rfl
      | some recipient =>
          dsimp only
          rw [Dispatch.post_congr recipient fun address =>
            Template.letter_of_sameBut hsame hne template id context address]
          exact runAlike_post h hne context other template recipient

/-- The branch of a channel does the same if what it uses differs on the other
side. -/
theorem runAlike_branchOn (h : w.DiffersOn side v) (hne : channel ≠ side)
    (hsame : settings.SameBut side other)
    (hoptions : options.DiffersOn side restricted) :
    RunAlike w v channel Eq
      (Dispatch.branchOn channel trigger context settings options)
      (Dispatch.branchOn channel trigger context other restricted) := by
  have hwanted : channel.isWanted settings options =
      channel.isWanted other restricted := by
    rw [Bool.eq_iff_iff, Gate.isWanted_eq_true_iff, Gate.isWanted_eq_true_iff,
      hsame.enables hne, (hoptions channel hne).1]
  unfold Dispatch.branchOn Dispatch.branch
  rw [hwanted]
  split
  · refine (runAlike_sendOn h hne hsame hoptions).attempt.bind
      fun answer _ hagree => ?_
    exact .pure (by rw [hagree.eq])
  · exact .pure rfl

/-- A delivery on the other channel is not seen on a channel. -/
theorem alikeOn_deliver (w : World) {l : Letter} (hne : l.channel ≠ channel)
    (templateId : String) (links : Except Failure Links) (outage : Outage)
    (s : State) :
    s.AlikeOn channel outage
      (w.course (l.deliver templateId links) s).after := by
  cases links with
  | error f =>
      rw [course_deliver_unlinked]
      exact w.alikeOn_hand hne outage s
  | ok links =>
      rw [course_deliver]
      refine (w.alikeOn_hand hne outage s).trans ?_
      simp only [answer, collaborator?, Option.bind_some]
      cases w.faults .log with
      | some f => exact .refl channel outage _
      | none => exact w.alikeOn_record hne outage _

/-- The branch of another channel is not seen on a channel. -/
theorem alikeOn_branchOn (w : World) {b : Channel} (hne : b ≠ channel)
    (trigger : String) (context : Fields) (settings : Settings)
    (options : SendOptions) (outage : Outage) (s : State) :
    s.AlikeOn channel outage
      (w.course (Dispatch.branchOn b trigger context settings options)
        s).after := by
  rcases w.branchOn_quiet_or_delivers b trigger context settings options s with
    ⟨-, hafter⟩ | ⟨template, recipient, -, -, -, hafter⟩
  · rw [hafter]
    exact .refl channel outage s
  · rw [hafter]
    exact w.alikeOn_deliver (by simpa using hne) _ _ outage s

/-- The branches of another channel run alike as far as a channel is concerned,
whatever they come to. -/
theorem runAlike_branchOn_other (w v : World) {b : Channel} (hne : b ≠ channel)
    (settings other : Settings) (options restricted : SendOptions) :
    RunAlike w v channel (fun _ _ => True)
      (Dispatch.branchOn b trigger context settings options)
      (Dispatch.branchOn b trigger context other restricted) := by
  intro s t halike
  obtain ⟨a, ha⟩ := w.result_branchOn b trigger context settings options s
  obtain ⟨c, hc⟩ := v.result_branchOn b trigger context other restricted t
  have hleft :=
    w.alikeOn_branchOn hne trigger context settings options w.outage s
  have hright :=
    v.alikeOn_branchOn hne trigger context other restricted w.outage t
  rw [ha, hc]
  exact ⟨.ok trivial, (hleft.symm.trans halike).trans hright⟩

/-- Each branch runs alike, and that of the channel comes to the same. -/
theorem runAlike_branch (h : w.DiffersOn side v) (hne : channel ≠ side)
    (hsame : settings.SameBut side other)
    (hoptions : options.DiffersOn side restricted) (b : Channel) :
    RunAlike w v channel (fun x y => b = channel → x = y)
      (Dispatch.branchOn b trigger context settings options)
      (Dispatch.branchOn b trigger context other restricted) := by
  by_cases hb : b = channel
  · subst hb
    exact (runAlike_branchOn h hne hsame hoptions).mono fun _ _ heq _ => heq
  · exact (runAlike_branchOn_other w v hb settings other options
      restricted).mono
      fun _ _ _ heq => absurd heq hb

/-- A dispatch comes to the same on a channel if everything differs at
most on the other side. -/
theorem runAlike_dispatch (h : w.DiffersOn side v) (hne : channel ≠ side)
    (hoptions : options.DiffersOn side restricted) (trigger : String)
    (data : NoticeData) :
    RunAlike w v channel (fun d e => d.on channel = e.on channel)
      (dispatch trigger data options)
      (dispatch trigger data restricted) := by
  rw [dispatch_eq, dispatch_eq]
  refine (runAlike_settings h).bind fun found found' hfound => ?_
  cases hfound with
  | none => exact .pure rfl
  | some hsame =>
      refine (runAlike_isAllowed h hsame trigger).bind ?_
      rintro allowed _ rfl
      cases allowed with
      | false => exact .pure rfl
      | true =>
          refine (runAlike_branch h hne hsame hoptions .email).bind
            fun email email' hemail => ?_
          refine (runAlike_branch h hne hsame hoptions .sms).bind
            fun sms sms' hsms => .pure ?_
          cases channel with
          | email => exact hemail rfl
          | sms => exact hsms rfl

end World

/-! ## Channel independence -/

namespace SendOptions

/-- To exclude the SMS channel is to differ on its side. -/
theorem differsOn_emailOnly (options : SendOptions) :
    options.DiffersOn .sms { options with emailOnly := true } := by
  intro channel hne
  cases channel with
  | email => exact ⟨rfl, rfl⟩
  | sms => exact absurd rfl hne

/-- To exclude the email channel is to differ on its side. -/
theorem differsOn_smsOnly (options : SendOptions) :
    options.DiffersOn .email { options with smsOnly := true } := by
  intro channel hne
  cases channel with
  | email => exact absurd rfl hne
  | sms => exact ⟨rfl, rfl⟩

end SendOptions

/-- What agrees on the one channel with one dispatch and on the other channel
with another is put together from these two. -/
theorem Agree.combine {whole byEmail bySms : Except Failure Dispatched}
    (hemail : Agree (fun d e => d.on .email = e.on .email) whole byEmail)
    (hsms : Agree (fun d e => d.on .sms = e.on .sms) whole bySms) :
    whole = (do return { email := (← byEmail).email, sms := (← bySms).sms
      }) := by
  cases hemail with
  | error f => rfl
  | @ok d e he =>
      cases hsms with
      | @ok _ m hm =>
          obtain ⟨email, sms⟩ := d
          obtain rfl : email = e.email := he
          obtain rfl : sms = m.sms := hm
          rfl

/-- **The channels are independent.**  Two dispatches in worlds and with options
that differ at most on the side of one channel come to the same on the other
channel, use its provider in the same way, and leave the same documents of it in
the log.  In particular a dispatch comes on each channel to what it comes to if
the other one is excluded. -/
theorem channels_are_independent :
    (∀ (side channel : Channel) (w v : World) (trigger : String)
      (data : NoticeData)
        (options other : SendOptions) (s t : State),
      channel ≠ side → w.DiffersOn side v → options.DiffersOn side other →
      s.AlikeOn channel w.outage t →
      let first := w.course (dispatch trigger data options) s
      let second := v.course (dispatch trigger data other) t
      first.result.map (·.on channel) = second.result.map (·.on channel) ∧
        first.after.AlikeOn channel w.outage second.after) ∧
    (∀ (w : World) (trigger : String) (data : NoticeData)
      (options : SendOptions) (s : State),
      let whole := w.course (dispatch trigger data options) s
      let byEmail :=
        w.course (dispatch trigger data { options with emailOnly := true }) s
      let bySms :=
        w.course (dispatch trigger data { options with smsOnly := true }) s
      whole.result = (do
        return {
          email := (← byEmail.result).email,
          sms := (← bySms.result).sms }) ∧
        whole.after.AlikeOn .email w.outage byEmail.after ∧
        whole.after.AlikeOn .sms w.outage bySms.after) := by
  constructor
  · intro side channel w v trigger data options other s t hne h hoptions
      halike first second
    obtain ⟨hagree, hafter⟩ :=
      World.runAlike_dispatch h hne hoptions trigger data s t halike
    exact ⟨hagree.map_eq, hafter⟩
  · intro w trigger data options s whole byEmail bySms
    obtain ⟨hemail, hmails⟩ :=
      World.runAlike_dispatch (.refl .sms w) (by decide)
      options.differsOn_emailOnly trigger data s s (.refl .email w.outage s)
    obtain ⟨hsms, htexts⟩ :=
      World.runAlike_dispatch (.refl .email w) (by decide)
      options.differsOn_smsOnly trigger data s s (.refl .sms w.outage s)
    exact ⟨hemail.combine hsms, hmails, htexts⟩

/-- The shop without anything that text messages need: they are switched off,
there is no template for them and no account, and the client fails. -/
def World.mailShop : World where
  settings := some [("email_enabled", .bool true), ("sms_enabled", .bool false)]
  templates := World.shop.templates.take 1
  outage := World.shop.outage
  faults c := if c = .sms then some ⟨"RuntimeError", "down"⟩ else none
  email := World.shop.email
  sms := { World.shop.sms with sid := none, token := none }
  mailServer := World.shop.mailServer
  smsProvider _ _ := .raised ⟨"URLError", "unreachable"⟩
  hook := World.shop.hook
  now := World.shop.now
  logIds := World.shop.logIds

/-- The shop and the one without text messages differ on the SMS side. -/
theorem World.shop_differsOn_mailShop :
    World.shop.DiffersOn .sms World.mailShop where
  settings := .side (by decide) ⟨⟨_, rfl⟩, ⟨_, rfl⟩⟩ fun name hname => by
    have hne : ¬ "sms_enabled" = name := fun heq => hname (heq ▸ by decide)
    simp [Store.content, Fields.erase, Fields.get?, hne]
  templates := by rfl
  outage := rfl
  faults c hc := (if_neg hc).symm
  mail _ := ⟨rfl, rfl⟩
  texts hne := absurd rfl hne
  hook := rfl
  now := rfl

/-- The mail of an invoice has the same fate in the shop without text messages
as in the one where a text message goes with it. -/
theorem mail_without_texts :
    let data : NoticeData := ⟨[("customer_email", .string "ana@example.com")]⟩
    let options : SendOptions := { forcePhone := some "+15551234567" }
    let first := World.shop.course (dispatch "invoice_ready" data options) {}
    let second :=
      World.mailShop.course
        (dispatch "invoice_ready" data { emailOnly := true }) {}
    (Channel.email ≠ .sms ∧ World.shop.DiffersOn .sms World.mailShop ∧
      options.DiffersOn .sms { emailOnly := true } ∧
        State.AlikeOn .email World.shop.outage {} {}) ∧
    first.result.map (·.on .email) = second.result.map (·.on .email) ∧
      first.after.AlikeOn .email World.shop.outage second.after := by
  intro data options first second
  have hne : Channel.email ≠ .sms := by decide
  have hoptions : options.DiffersOn .sms { emailOnly := true } := by
    intro channel hchannel
    cases channel with
    | email => exact ⟨rfl, rfl⟩
    | sms => exact absurd rfl hchannel
  exact ⟨⟨hne, World.shop_differsOn_mailShop, hoptions, .refl ..⟩,
    channels_are_independent.1 .sms .email World.shop World.mailShop
      "invoice_ready" data options
      { emailOnly := true } {}
        {} hne World.shop_differsOn_mailShop hoptions (.refl ..)⟩

/-- A settings document with a valid switch of text messages counts as found,
while the same document without the switch is empty and counts as none, and that
is reported of the mail.  If the log refuses its first write, the document of a
text message is lost when it goes alone, and kept when a mail goes before it. -/
theorem channels_share_settings_and_log :
    let switch : Fields := [("sms_enabled", .bool true)]
    let down : Failure := ⟨"RuntimeError", "down"⟩
    let failing : World := { World.shop with
      outage := { writeLog := fun n => n == 0 }
      faults := fun c => if c = .email || c = .sms then some down else none }
    let data : NoticeData := ⟨[("customer_email", .string "ana@example.com"),
      ("customer_phone", .string "+15551234567")]⟩
    let under (doc : Fields) : World := { World.shop with settings := some doc }
    let mailUnder (doc : Fields) :=
      ((under doc).course (dispatch "invoice_ready" .empty {}) {}).result.map
        (·.on .email)
    let textsUnder (options : SendOptions) :=
      (failing.course (dispatch "invoice_ready" data options)
        {}).after.documentsOn .sms
    (Settings.IsValidOn .sms [] ∧ Settings.IsValidOn .sms switch ∧
      (∀ name, name ∉ Channel.settingNames .sms →
        Fields.get? [] name = switch.get? name) ∧
      mailUnder [] = .ok (some (.failed .noSettings)) ∧
        mailUnder switch = .ok none) ∧
    (textsUnder {}).isEmpty = false ∧
      (textsUnder { smsOnly := true }).isEmpty = true := by
  intro switch down failing data under mailUnder textsUnder
  refine ⟨⟨⟨_, rfl⟩, ⟨_, rfl⟩, fun name hname => ?_, rfl, rfl⟩, ?_, ?_⟩
  · have hne : ¬ "sms_enabled" = name := fun heq => hname (heq ▸ by decide)
    simp [switch, Fields.get?, hne]
  · decide +kernel
  · decide +kernel

end Notices
