import Notices.Proofs.Interleaving
import Notices.Proofs.TestSend

/-!
# Triggers without a switch

A dispatch whose trigger has no switch reports that once, before any channel is
tried.  What comes of the report is not seen in anything else, and otherwise
such a trigger is treated as one whose switch is on.

* `State.reported` and `State.unreported` take a state apart into what was
  reported and all the rest.
* `World.InStep` says that two programs, each in its world, go on in step and
  report nothing, and `World.InStep.run` that they come to related results and
  leave states that differ in earlier reports only.
* `World.inStep_branches` says so of the branches of a dispatch, in worlds that
  differ in the hook and in the name that the templates give to the trigger.
* `World.run_inTurns` says what a dispatch does before its branches, which may
  take turns: if none of them is picked before its time, this is `dispatch`.
* `unknown_triggers_are_only_reported` puts these together.
-/

namespace Notices

/-! ## Reports -/

/-- The trigger that an event reports, if it is a report. -/
def Event.reported? : Event → Option String
  | .unknownTrigger trigger => some trigger
  | .submitted _ | .requested _ | .logged _ => none

namespace State

/-- The triggers that were reported, in their order. -/
def reported (s : State) : List String := s.events.filterMap Event.reported?

/-- A state without its reports. -/
def unreported (s : State) : State :=
  { s with events := s.events.filter (·.reported?.isNone) }

/-- A report that is put down comes behind the earlier ones. -/
@[simp] theorem reported_put_unknownTrigger (s : State) (trigger : String) :
    (s.put (.unknownTrigger trigger)).reported = s.reported ++ [trigger] := by
  simp [reported, put, Event.reported?]

/-- A report that is put down changes nothing else. -/
@[simp] theorem unreported_put_unknownTrigger (s : State) (trigger : String) :
    (s.put (.unknownTrigger trigger)).unreported = s.unreported := by
  simp [unreported, put, Event.reported?]

end State

namespace World

/-- An answer that is no report does not depend on earlier reports, and adds
none. -/
theorem answer_unreported (w : World) (s : State) {r : Request}
    (hr : ∀ trigger, r ≠ .unknownTrigger trigger) :
    w.answer s.unreported r = ((w.answer s r).1, (w.answer s r).2.unreported) ∧
      (w.answer s r).2.reported = s.reported := by
  unfold answer
  split
  · exact ⟨rfl, rfl⟩
  · cases r with
    | unknownTrigger trigger => exact absurd rfl (hr trigger)
    | email mail =>
        simp only [serve, sendEmail_eq]
        simp [State.unreported, State.reported, Event.reported?,
          Function.comp_def, List.filter_map]
    | sms recipient body =>
        simp only [serve, sendSms_eq]
        simp [State.unreported, State.reported, Event.reported?,
          Function.comp_def, List.filter_map]
    | record attempt =>
        simp only [serve, record]
        by_cases hfailing : w.outage.writeLog s.writes = true
        · simp [State.unreported, State.reported, hfailing]
        · simp [State.unreported, State.reported, hfailing, State.put,
            Event.reported?]
    | settings | template _ _ | templateById _ | recent _ | now =>
        exact ⟨rfl, rfl⟩

/-! ## Programs that go on in step -/

section Related

variable {α β : Type} {related : α → β → Prop} {l : List α} {l' : List β}

/-- Lists that are related element by element are so at each place. -/
theorem rel_getElem?_of_forall₂ (h : List.Forall₂ related l l') (n : Nat) :
    Option.Rel related l[n]? l'[n]? := by
  induction h generalizing n with
  | nil => exact .none
  | cons hfirst _ ih =>
      cases n with
      | zero => exact .some hfirst
      | succ n => simpa using ih n

/-- Lists that are related element by element still are when an element of each
is replaced by related ones. -/
theorem forall₂_set (h : List.Forall₂ related l l') (n : Nat) {a : α} {b : β}
    (hab : related a b) :
    List.Forall₂ related (l.set n a) (l'.set n b) := by
  induction h generalizing n with
  | nil => exact .nil
  | cons hfirst hrest ih =>
      cases n with
      | zero => exact .cons hab hrest
      | succ n => exact .cons hfirst (ih n)

/-- Of lists that are related element by element the first elements that pass
tests which agree are related. -/
theorem rel_find?_of_forall₂ {test : α → Bool} {other : β → Bool}
    (h : List.Forall₂ related l l')
    (htest : ∀ a b, related a b → test a = other b) :
    Option.Rel related (l.find? test) (l'.find? other) := by
  induction h with
  | nil => exact .none
  | @cons a b _ _ hfirst _ ih =>
      rw [List.find?_cons, List.find?_cons, htest a b hfirst]
      cases other b with
      | true => exact .some hfirst
      | false => exact ih

end Related

variable {α β γ δ : Type} {w v : World}

/-- Two requests, each in its world, are answered in step: in states that differ
in reports only they get answers that agree, states that differ in reports only
are left, and nothing is reported. -/
def AnswersInStep (w v : World) {r q : Request}
    (related : r.Answer → q.Answer → Prop) : Prop :=
  ∀ s t : State, s.unreported = t.unreported →
    Agree related (w.answer s r).1 (v.answer t q).1 ∧
      (w.answer s r).2.unreported = (v.answer t q).2.unreported ∧
      (w.answer s r).2.reported = s.reported ∧
        (v.answer t q).2.reported = t.reported

/-- A request that is no report is answered in step in worlds that answer it
alike. -/
theorem answersInStep_of_answer_eq {r : Request}
    (hr : ∀ trigger, r ≠ .unknownTrigger trigger)
    (hsame : ∀ s, w.answer s r = v.answer s r) :
    w.AnswersInStep v (r := r) (q := r) Eq := by
  intro s t hstates
  obtain ⟨hs, hreported⟩ := w.answer_unreported s hr
  obtain ⟨ht, hreported'⟩ := v.answer_unreported t hr
  rw [hstates, hsame, ht, Prod.mk.injEq] at hs
  exact ⟨.of_eq hs.1.symm, hs.2.symm, hreported, hreported'⟩

/-- Two programs, each in its world, go on in step: they end alike, or they ask
for what is answered in step and go on in step with answers that agree. -/
inductive InStep (w v : World) {α β : Type} (related : α → β → Prop) :
    Program α → Program β → Prop
  | done {a : α} {b : β}
      (h : related a b) : InStep w v related (.done a) (.done b)
  | failed (f : Failure) : InStep w v related (.failed f) (.failed f)
  | ask {r q : Request} {next : Except Failure r.Answer → Program α}
      {other : Except Failure q.Answer → Program β}
      {answers : r.Answer → q.Answer → Prop}
      (first : w.AnswersInStep v answers)
      (rest : ∀ a b, Agree answers a b →
        InStep w v related (next a) (other b)) :
      InStep w v related (.ask r next) (.ask q other)

namespace InStep

variable {related : α → β → Prop} {result : γ → δ → Prop} {p : Program α}
    {q : Program β}

theorem pure {a : α} {b : β} (h : related a b) :
    w.InStep v related (Pure.pure a) (Pure.pure b) := .done h

theorem call {r q : Request} {answers : r.Answer → q.Answer → Prop}
    (h : w.AnswersInStep v answers) :
    w.InStep v answers (Program.call r) (Program.call q) := by
  refine .ask h fun a b hagree => ?_
  cases hagree with
  | ok h => exact .done h
  | error f => exact .failed f

/-- A request that is no report is made in step with itself in worlds
that answer it alike. -/
theorem call_self (r : Request) (hr : ∀ trigger, r ≠ .unknownTrigger trigger)
    (hsame : ∀ s, w.answer s r = v.answer s r) :
    w.InStep v Eq (Program.call r) (Program.call r) :=
  .call (answersInStep_of_answer_eq hr hsame)

/-- Sequences go on in step if their first parts do and the rests do on all
values that these may come to. -/
theorem bind {k : α → Program γ} {l : β → Program δ}
    (hfirst : w.InStep v related p q)
    (hrest : ∀ a b, related a b → w.InStep v result (k a) (l b)) :
    w.InStep v result (p >>= k) (q >>= l) := by
  show w.InStep v result (p.bind k) (q.bind l)
  induction hfirst with
  | done h => exact hrest _ _ h
  | failed f => exact .failed f
  | ask first _ ih => exact .ask first ih

theorem attempt (h : w.InStep v related p q) :
    w.InStep v (Agree related) p.attempt q.attempt := by
  induction h with
  | done h => exact .done (.ok h)
  | failed f => exact .done (.error f)
  | ask first _ ih => exact .ask first ih

/-- Programs one after another go on in step. -/
theorem mapM_attempt {programs : List (Program α)} {others : List (Program β)}
    (h : List.Forall₂ (w.InStep v related) programs others) :
    w.InStep v (List.Forall₂ (Agree related)) (programs.mapM Program.attempt)
      (others.mapM Program.attempt) := by
  induction h with
  | nil => exact .pure .nil
  | cons hfirst _ ih =>
      rw [List.mapM_cons, List.mapM_cons]
      refine hfirst.attempt.bind fun a b hagree =>
        ih.bind fun as bs hagrees => ?_
      exact .pure (.cons hagree hagrees)

/-- Programs that take turns go on in step with others that do so in the same
order. -/
theorem weave {programs : List (Program α)} {others : List (Program β)}
    (h : List.Forall₂ (w.InStep v related) programs others) (picks : List Nat) :
    w.InStep v (List.Forall₂ (Agree related)) (Program.weave picks programs)
      (Program.weave picks others) := by
  induction picks generalizing programs others with
  | nil => exact mapM_attempt h
  | cons pick picks ih =>
      have hpicked := rel_getElem?_of_forall₂ h pick
      unfold Program.weave
      generalize programs[pick]? = first, others[pick]? = second at hpicked
      cases hpicked with
      | none => exact ih h
      | some hstep =>
          cases hstep with
          | done _ => exact ih h
          | failed f => exact ih h
          | ask first rest =>
              exact .ask first fun a b hagree =>
                ih (forall₂_set h pick (rest a b hagree))

/-- Programs that go on in step come to results that agree, and leave states
that differ in earlier reports only. -/
theorem run (h : w.InStep v related p q) {s t : State}
    (hstates : s.unreported = t.unreported) :
    Agree related (w.run p s).1 (v.run q t).1 ∧
      (w.run p s).2.unreported = (v.run q t).2.unreported ∧
      (w.run p s).2.reported = s.reported ∧
      (v.run q t).2.reported = t.reported := by
  induction h generalizing s t with
  | done h => exact ⟨.ok h, hstates, rfl, rfl⟩
  | failed f => exact ⟨.error f, hstates, rfl, rfl⟩
  | ask first _ ih =>
      obtain ⟨hagree, hafter, hreported, hreported'⟩ := first s t hstates
      obtain ⟨hresult, hend, hkept, hkept'⟩ := ih _ _ hagree hafter
      exact ⟨hresult, hend, hkept.trans hreported, hkept'.trans hreported'⟩

end InStep

end World

/-! ## Templates that differ in the name of the trigger -/

theorem Fields.AgreeBut.symm {names : List String} {doc other : Fields}
    (h : doc.AgreeBut names other) :
    other.AgreeBut names doc :=
  fun name hname => (h name hname).symm

namespace Store

/-- The identity that the store gives a document is the only field
that its content lacks. -/
theorem get?_content (doc : Fields) {name : String} (h : name ≠ "_id") :
    (content doc).get? name = doc.get? name := by
  unfold content Fields.erase
  rw [Fields.get?_filter (· != "_id"), if_pos (by simpa using h)]

/-- Whether a field is a certain text depends on that field alone. -/
theorem hasText_congr {name : String} {doc other : Fields}
    (h : doc.get? name = other.get? name) (text : String) :
    hasText name text doc = hasText name text other := by
  unfold hasText
  rw [h]

/-- Documents have the same templates for two triggers if those of the one are
those of the other, in their order and each with the same fields but for its
trigger and the identity that the store gives it. -/
def SameTemplates (templates others : List Fields) (trigger other : String) :
    Prop :=
  List.Forall₂ (Fields.AgreeBut ["_id", "trigger"])
    (templates.filter (hasText "trigger" trigger))
    (others.filter (hasText "trigger" other))

theorem SameTemplates.refl (templates : List Fields) (trigger : String) :
    SameTemplates templates templates trigger trigger :=
  List.forall₂_same.mpr fun _ _ _ _ => rfl

theorem SameTemplates.symm {templates others : List Fields}
    {trigger other : String}
    (h : SameTemplates templates others trigger other) :
    SameTemplates others templates other trigger :=
  List.Forall₂.flip (h.imp fun _ _ hagree => hagree.symm)

end Store

namespace Template

/-- Fields that differ from those of a template at most in the trigger are those
of the template with their own trigger. -/
theorem read_of_agreeBut {otherwise : FaultKind} {fields other : Fields}
    {t : Template} {trigger : String}
    (h : fields.AgreeBut ["_id", "trigger"] other)
    (htrigger : other.get? "trigger" = some (.string trigger))
    (hread : read otherwise (.object fields) = .ok t) :
    read otherwise (.object other) = .ok { t with trigger } := by
  have hrequired : ∀ {α : Type} {name : String}
      {reader : Record.Reader α} {a : α},
      Record.required fields name reader = .ok a → name ∉ ["_id", "trigger"] →
      Record.required other name reader = .ok a :=
    fun ha hname => (required_congr (h _ hname) _).symm.trans ha
  have hdefault : ∀ {α : Type} {name : String} {default a : α}
      {reader : Record.Reader α},
      Record.withDefault fields name default reader = .ok a →
        name ∉ ["_id", "trigger"] →
      Record.withDefault other name default reader = .ok a :=
    fun ha hname => (Record.withDefault_congr (h _ hname) _ _).symm.trans ha
  have hown : Record.required other "trigger" Record.text = .ok trigger := by
    unfold Record.required
    rw [htrigger]
    rfl
  obtain ⟨h1, h2, -, h4, h5, h6, h7, h8, h9⟩ := read_eq_ok_iff.mp hread
  exact read_eq_ok_iff.mpr
    ⟨hrequired h1 (by decide), hrequired h2 (by decide), hown,
      hdefault h4 (by decide), hdefault h5 (by decide),
      hdefault h6 (by decide), hdefault h7 (by decide),
      hdefault h8 (by decide), hdefault h9 (by decide)⟩

/-- A template differs from another at most in its trigger. -/
def IsRenamed (t u : Template) : Prop := ∃ trigger, u = { t with trigger }

end Template

namespace World

/-- The first template of a channel and a trigger is the first one of the
channel among those of the trigger. -/
theorem find?_template (templates : List Fields) (channel : Channel)
    (trigger : String) :
    (templates.find? fun doc =>
      Store.hasText "type" channel.word doc &&
        Store.hasText "trigger" trigger doc) =
      (templates.filter (Store.hasText "trigger" trigger)).find?
        (Store.hasText "type" channel.word) := by
  rw [List.find?_filter]
  congr 1
  funext doc
  simp [Bool.and_comm]

/-- If documents have the same templates for two triggers, a template of the one
is, with the other trigger, one of the other. -/
theorem HasTemplate.renamed {w v : World} {channel : Channel}
    {trigger other : String} {t : Template}
    (h : Store.SameTemplates w.templates v.templates trigger other)
    (houtage : w.outage.templates = v.outage.templates)
    (hhas : w.HasTemplate channel trigger t) :
    v.HasTemplate channel other { t with trigger := other } := by
  obtain ⟨hreachable, doc, hdoc, -, hread⟩ := hhas
  have hfound := rel_find?_of_forall₂ h
    fun a b hagree =>
      Store.hasText_congr (hagree "type" (by decide)) channel.word
  rw [← find?_template, hdoc] at hfound
  generalize hother : (v.templates.filter _).find? _ = found at hfound
  obtain @⟨_, doc', hagree⟩ := hfound
  have htrigger := (List.mem_filter.mp (List.mem_of_find?_eq_some hother)).2
  have hfield : (Store.content doc').get? "trigger" = some (.string other) :=
    (Store.get?_content doc' (by decide)).trans (get?_of_hasText htrigger)
  refine ⟨houtage ▸ hreachable, doc', by rw [find?_template, hother], ?_, ?_⟩
  · intro hnil
    rw [hnil] at hfield
    cases hfield
  · exact Template.read_of_agreeBut hagree.content hfield hread

/-- If documents have the same templates for two triggers, what is found for
them differs at most in the trigger. -/
theorem template?_renamed {w v : World} {trigger other : String}
    (h : Store.SameTemplates w.templates v.templates trigger other)
    (houtage : w.outage.templates = v.outage.templates) (channel : Channel) :
    Option.Rel Template.IsRenamed (w.template? channel trigger)
      (v.template? channel other) := by
  cases hw : w.template? channel trigger with
  | some t =>
      have hv := (template?_eq_some_iff.mp hw).renamed h houtage
      rw [template?_eq_some_iff.mpr hv]
      exact .some ⟨other, rfl⟩
  | none =>
      cases hv : v.template? channel other with
      | none => exact .none
      | some u =>
          have hback :=
            (template?_eq_some_iff.mp hv).renamed h.symm houtage.symm
          rw [template?_eq_some_iff.mpr hback] at hw
          cases hw

/-! ## The branches of a dispatch -/

variable {w : World} {hook : Hook} {templates : List Fields}
    {trigger other : String} {context : Fields}
  {settings : Settings} {options : SendOptions}

/-- The template of a trigger is found in step with that of a trigger that
has the same templates. -/
theorem inStep_template
    (h : Store.SameTemplates w.templates templates trigger other)
    (channel : Channel) :
    w.InStep { w with hook, templates } (Option.Rel Template.IsRenamed)
      (Program.call (.template channel trigger))
        (Program.call (.template channel other)) := by
  let v : World := { w with hook, templates }
  have hfound := template?_renamed (v := v) h rfl channel
  refine InStep.call (r := .template channel trigger)
    (q := .template channel other) fun s t hstates => ?_
  rw [answer_of_course (w.course_template channel trigger s),
    answer_of_course (v.course_template channel other t)]
  exact ⟨.unlessFault rfl hfound, hstates, rfl, rfl⟩

/-- A letter is delivered in step with itself, whatever the hook and the
templates are. -/
theorem inStep_deliver (l : Letter) (templateId : String)
    (links : Except Failure Links) :
    w.InStep { w with hook, templates } Eq (l.deliver templateId links)
      (l.deliver templateId links) := by
  have hhand : w.InStep { w with hook, templates } Eq l.hand l.hand := by
    cases l with
    | email mail => exact .call_self (.email mail) (by simp) fun _ => rfl
    | sms recipient body =>
        exact .call_self (.sms recipient body) (by simp) fun _ => rfl
  have hrecord : ∀ attempt,
      w.InStep { w with hook, templates } Eq (Program.call (.record attempt))
      (Program.call (.record attempt)) :=
    fun attempt => .call_self (.record attempt) (by simp) fun _ => rfl
  unfold Letter.deliver
  refine hhand.attempt.bind fun answer answer' hagree => ?_
  obtain rfl := hagree.eq
  cases links with
  | error f => exact .failed f
  | ok links => exact (hrecord _).bind fun _ _ _ => .pure rfl

/-- What is posted by a template is posted in step, and its trigger does not
matter. -/
theorem inStep_post (channel : Channel) (template : Template) (other : String)
    (recipient : Value) :
    w.InStep { w with hook, templates } Eq
      (Dispatch.post channel context settings template recipient)
      (Dispatch.post channel context settings { template with trigger := other }
        recipient) := by
  have hsame : Dispatch.post channel context settings
      { template with trigger := other } recipient =
      Dispatch.post channel context settings template recipient := rfl
  rw [hsame]
  rcases Dispatch.post_cases channel context settings template recipient with
    ⟨l, -, hpost⟩ | hpost
  · exact hpost ▸ inStep_deliver l _ _
  · exact hpost ▸ .failed _

/-- What a branch sends for a trigger is sent in step with what it sends for one
that has the same templates. -/
theorem inStep_sendOn
    (h : Store.SameTemplates w.templates templates trigger other)
    (channel : Channel) :
    w.InStep { w with hook, templates } Eq
      (Dispatch.sendOn channel trigger context settings options)
      (Dispatch.sendOn channel other context settings options) := by
  have husable :
      w.InStep { w with hook, templates } (Option.Rel Template.IsRenamed)
      (Dispatch.usableTemplate channel trigger)
      (Dispatch.usableTemplate channel other) := by
    refine (inStep_template h channel).bind fun found found' hfound => .pure ?_
    cases hfound with
    | none => exact .none
    | @some t u hsame =>
        obtain ⟨_, rfl⟩ := hsame
        simp only [Option.filter_some]
        split
        · exact .some ⟨_, rfl⟩
        · exact .none
  unfold Dispatch.sendOn
  refine husable.bind fun found found' hfound => ?_
  cases hfound with
  | none => exact .pure rfl
  | @some t u hsame =>
      obtain ⟨_, rfl⟩ := hsame
      cases Dispatch.recipient? (channel.forced options) context
        channel.contactField with
      | none => exact .pure rfl
      | some recipient => exact inStep_post channel t _ recipient

/-- The branch of a channel goes on in step for triggers that have the same
templates. -/
theorem inStep_branchOn
    (h : Store.SameTemplates w.templates templates trigger other)
    (channel : Channel) :
    w.InStep { w with hook, templates } Eq
      (Dispatch.branchOn channel trigger context settings options)
      (Dispatch.branchOn channel other context settings options) := by
  unfold Dispatch.branchOn Dispatch.branch
  split
  · refine (inStep_sendOn h channel).attempt.bind
      fun answer answer' hagree => ?_
    exact .pure (by rw [hagree.eq])
  · exact .pure rfl

end World

/-! ## What a dispatch does before its branches -/

/-- The branches of a dispatch, in turns. -/
def Dispatch.branches (picks : List Nat) (trigger : String) (context : Fields)
    (settings : Settings) (options : SendOptions) : Program Dispatched := do
  let outcomes ← Program.weave picks [
    branchOn .email trigger context settings options,
    branchOn .sms trigger context settings options]
  return { email := gathered outcomes[0]?, sms := gathered outcomes[1]? }

namespace World

/-- A trigger is reported if there is a hook for that, the settings are found,
and the trigger has no switch. -/
structure Reports (w : World) (trigger : String) : Prop where
  hooked : w.hook ≠ .absent
  works : w.faults .settings = none
  settings : ∃ settings, w.HasSettings settings
  unmapped : ∀ t : Trigger, trigger ≠ t.word

/-- The state behind the question whether a trigger is allowed: one without
a switch is reported. -/
def asked (w : World) (trigger : String) (s : State) : State :=
  match Trigger.ofWord? trigger with
  | some _ => s
  | none => (w.reportUnknown trigger s).2

/-- A trigger has no switch exactly if it is none of the words for those that
have one. -/
theorem ofWord?_eq_none_iff {trigger : String} :
    Trigger.ofWord? trigger = none ↔ ∀ t : Trigger, trigger ≠ t.word := by
  simp only [Option.eq_none_iff_forall_ne_some, ne_eq,
    Trigger.ofWord?_eq_some_iff]

/-- To ask whether a trigger is allowed changes nothing but what was
reported. -/
theorem unreported_asked (w : World) (trigger : String) (s : State) :
    (w.asked trigger s).unreported = s.unreported := by
  unfold asked reportUnknown
  cases Trigger.ofWord? trigger with
  | some t => rfl
  | none => cases w.hook <;> simp

/-- To ask whether a trigger is allowed reports one without a switch, if there
is a hook, and nothing else. -/
theorem reported_asked (w : World) (trigger : String) (s : State) :
    (w.asked trigger s).reported =
      s.reported ++ if w.hook ≠ .absent ∧
      Trigger.ofWord? trigger = none then [trigger] else [] := by
  unfold asked reportUnknown
  cases Trigger.ofWord? trigger with
  | some t => simp
  | none => cases w.hook <;> simp

/-- Whether a trigger is allowed is what the settings say of it. -/
theorem run_isAllowed (w : World) (settings : Settings) (trigger : String)
    (s : State) :
    w.run (Dispatch.isAllowed settings trigger) s =
      (.ok (settings.permits trigger), w.asked trigger s) := by
  unfold Dispatch.isAllowed Settings.permits asked
  cases Trigger.ofWord? trigger with
  | some t => rfl
  | none =>
      simp only
      rw [run_bind, run_attempt, run_call]
      rfl

/-- A dispatch reads the settings, asks whether the trigger is allowed, and runs
its branches if it is. -/
theorem run_inTurns (w : World) (picks : List Nat) (trigger : String)
    (data : NoticeData) (options : SendOptions) (s : State) :
    w.run (Dispatch.inTurns picks trigger data options) s =
      match unlessFault (w.faults .settings) w.settings? with
      | .error f => (.error f, s)
      | .ok none => (.ok (.bothFailed .noSettings), s)
      | .ok (some settings) =>
        if settings.permits trigger then
          w.run (Dispatch.branches picks trigger data.context settings options)
            (w.asked trigger s)
        else (.ok (.bothFailed .triggerDisabled), w.asked trigger s) := by
  have hread : w.run (Program.call .settings) s =
      (unlessFault (w.faults .settings) w.settings?, s) := by
    rw [run_call, answer_of_course (w.course_settings s)]
  rw [Dispatch.inTurns_eq, run_bind, hread]
  cases unlessFault (w.faults .settings) w.settings? with
  | error f => rfl
  | ok found =>
      cases found with
      | none => rfl
      | some settings =>
          simp only
          rw [run_bind, run_isAllowed]
          cases settings.permits trigger <;> rfl

variable {w : World} {hook : Hook} {templates : List Fields}
    {trigger other : String} {context : Fields}
  {settings : Settings} {options : SendOptions}

/-- The branches go on in step for triggers that have the same templates. -/
theorem inStep_branches
    (h : Store.SameTemplates w.templates templates trigger other) (hook : Hook)
    (picks : List Nat) :
    w.InStep { w with hook, templates } Eq
      (Dispatch.branches picks trigger context settings options)
      (Dispatch.branches picks other context settings options) := by
  have hbranch : ∀ channel, w.InStep { w with hook, templates } Eq
      (Dispatch.branchOn channel trigger context settings options)
      (Dispatch.branchOn channel other context settings options) :=
    fun channel => inStep_branchOn h channel
  unfold Dispatch.branches
  refine (InStep.weave (.cons (hbranch .email) (.cons (hbranch .sms) .nil))
    picks).bind ?_
  intro outcomes outcomes' hagree
  have hsame := hagree.imp fun _ _ => Agree.eq
  rw [List.forall₂_eq_eq_eq] at hsame
  obtain rfl := hsame
  exact .pure rfl

/-- A dispatch reports its trigger if it is one to be reported, and else
nothing. -/
theorem reported_inTurns (w : World) (picks : List Nat) (trigger : String)
    (data : NoticeData) (options : SendOptions) (s : State) :
    let after := (w.run (Dispatch.inTurns picks trigger data options) s).2
    (w.Reports trigger → after.reported = s.reported ++ [trigger]) ∧
      (¬ w.Reports trigger → after.reported = s.reported) := by
  intro after
  have hafter : after =
      (w.run (Dispatch.inTurns picks trigger data options) s).2 := rfl
  rw [run_inTurns] at hafter
  cases hfault : w.faults .settings with
  | some f =>
      rw [hfault] at hafter
      refine ⟨fun hreports => ?_, fun _ => congrArg State.reported hafter⟩
      rw [hreports.works] at hfault
      cases hfault
  | none =>
      cases hset : w.settings? with
      | none =>
          rw [hfault, hset] at hafter
          refine ⟨fun hreports => ?_, fun _ => congrArg State.reported hafter⟩
          obtain ⟨settings, hsettings⟩ := hreports.settings
          rw [settings?_eq_some_iff.mpr hsettings] at hset
          cases hset
      | some settings =>
          -- whatever the branches do, only the question before them reports
          -- anything
          have hasked : after.reported = (w.asked trigger s).reported := by
            rw [hafter, hfault, hset]
            simp only [unlessFault]
            split
            · exact ((inStep_branches (.refl w.templates trigger) w.hook
                picks).run rfl).2.2.1
            · rfl
          rw [hasked, reported_asked]
          constructor
          · intro hreports
            rw [if_pos
              ⟨hreports.hooked, ofWord?_eq_none_iff.mpr hreports.unmapped⟩]
          · intro hreports
            rw [if_neg, List.append_nil]
            rintro ⟨hhook, hword⟩
            exact hreports
              ⟨hhook, hfault, ⟨settings, settings?_eq_some_iff.mp hset⟩,
              ofWord?_eq_none_iff.mp hword⟩

/-- A dispatch does the same, but for what is reported, for two triggers that
are permitted alike and have the same templates, whatever the hooks are. -/
theorem run_inTurns_renamed
    (hsame : Store.SameTemplates w.templates templates trigger other)
    (hpermits : ∀ settings, w.HasSettings settings →
      settings.permits trigger = settings.permits other)
    (hook : Hook) (picks : List Nat) (data : NoticeData) (options : SendOptions)
    (s : State) :
    let run := w.run (Dispatch.inTurns picks trigger data options) s
    let renamed :=
      ({ w with hook, templates } : World).run
        (Dispatch.inTurns picks other data options) s
    renamed.1 = run.1 ∧ renamed.2.unreported = run.2.unreported := by
  intro run renamed
  let v : World := { w with hook, templates }
  have hrun : run = w.run (Dispatch.inTurns picks trigger data options) s := rfl
  have hrenamed : renamed =
      v.run (Dispatch.inTurns picks other data options) s := rfl
  have hv : unlessFault (v.faults .settings) v.settings? =
      unlessFault (w.faults .settings) w.settings? := rfl
  rw [run_inTurns] at hrun hrenamed
  rw [hrun, hrenamed, hv]
  cases hfound : unlessFault (w.faults .settings) w.settings? with
  | error f => exact ⟨rfl, rfl⟩
  | ok found =>
      cases found with
      | none => exact ⟨rfl, rfl⟩
      | some settings =>
          have hasked : (w.asked trigger s).unreported =
              (v.asked other s).unreported := by
            rw [unreported_asked, unreported_asked]
          have hset : w.HasSettings settings :=
            settings?_eq_some_iff.mp (unlessFault_eq_ok hfound)
          simp only [hpermits settings hset]
          split
          · obtain ⟨hresult, hafter, -, -⟩ :=
              (inStep_branches hsame hook picks).run hasked
            exact ⟨hresult.eq.symm, hafter.symm⟩
          · exact ⟨rfl, hasked.symm⟩

end World

/-- **Unknown triggers are only reported.**  A dispatch reports its trigger
once if there is a hook for that, the settings are found and the trigger has
no switch, and in any other case it reports nothing.  Whether there is a
hook, and whether it fails, changes neither the result nor what is left
behind, the reports apart.  And these are the same as for a trigger whose
switch is on, in a store that has the same templates for it.  All this holds
in whatever turns the branches go on. -/
theorem unknown_triggers_are_only_reported (w : World) (picks : List Nat)
    (trigger : String) (data : NoticeData) (options : SendOptions) (s : State) :
    let run := w.run (Dispatch.inTurns picks trigger data options) s
    ((w.Reports trigger → run.2.reported = s.reported ++ [trigger]) ∧
      (¬ w.Reports trigger → run.2.reported = s.reported)) ∧
    (∀ hook : Hook,
      let hooked :=
        ({ w with hook } : World).run
          (Dispatch.inTurns picks trigger data options) s
      hooked.1 = run.1 ∧ hooked.2.unreported = run.2.unreported) ∧
    ∀ (known : Trigger) (hook : Hook) (templates : List Fields),
      (∀ t : Trigger, trigger ≠ t.word) →
      (∀ settings, w.HasSettings settings → settings.allows known = true) →
      Store.SameTemplates w.templates templates trigger known.word →
      let mapped := ({ w with hook, templates } : World).run
        (Dispatch.inTurns picks known.word data options) s
      mapped.1 = run.1 ∧ mapped.2.unreported = run.2.unreported := by
  intro run
  refine ⟨w.reported_inTurns picks trigger data options s, fun hook => ?_, ?_⟩
  · exact World.run_inTurns_renamed (.refl w.templates trigger)
      (fun _ _ => rfl) hook picks data options s
  · intro known hook templates hunmapped hallows hsame
    refine World.run_inTurns_renamed hsame (fun settings hset => ?_) hook picks
      data options s
    have hword : Trigger.ofWord? known.word = some known :=
      Trigger.ofWord?_eq_some_iff.mpr rfl
    have hnone : Trigger.ofWord? trigger = none :=
      World.ofWord?_eq_none_iff.mpr hunmapped
    simp [Settings.permits, hword, hnone, hallows settings hset]

/-- In the shop, with its templates made out to another trigger and a hook that
fails, that trigger is reported, and the customer is sent what the shop sends
for an invoice, of which nothing is reported. -/
theorem birthday_is_reported_and_sent_as_an_invoice :
    let birthday := "birthday"
    let templates :=
      World.shop.templates.map (·.set "trigger" (.string birthday))
    let w : World :=
      { World.shop with hook := .fails ⟨"RuntimeError", "down"⟩, templates }
    let data : NoticeData := ⟨[("customer_email", .string "ana@example.com")]⟩
    let notice (v : World) (trigger : String) :=
      v.run (Dispatch.inTurns [1, 0, 1] trigger data {}) {}
    (w.Reports birthday ∧ ¬ World.shop.Reports "invoice_ready" ∧
      (∀ t : Trigger, birthday ≠ t.word) ∧
      (∀ settings, w.HasSettings settings →
        settings.allows .invoiceReady = true) ∧
      Store.SameTemplates w.templates World.shop.templates birthday
        Trigger.invoiceReady.word) ∧
    (notice w birthday).2.reported = [birthday] ∧
    (notice World.shop "invoice_ready").2.reported = [] ∧
    (notice World.shop "invoice_ready").1 = (notice w birthday).1 ∧
      (notice World.shop "invoice_ready").2.unreported =
        (notice w birthday).2.unreported := by
  intro birthday templates w data notice
  have hset : w.HasSettings { emailEnabled := true, smsEnabled := true } :=
    ⟨rfl, _, rfl, by decide, rfl⟩
  have hunmapped : ∀ t : Trigger, birthday ≠ t.word := by
    intro t
    cases t <;> decide
  have hreports : w.Reports birthday := ⟨nofun, rfl, ⟨_, hset⟩, hunmapped⟩
  have hsilent : ¬ World.shop.Reports "invoice_ready" := fun h => h.hooked rfl
  have hallows : ∀ settings, w.HasSettings settings →
      settings.allows .invoiceReady = true := by
    intro settings hsettings
    rw [Gate.settings_eq (World.settings?_eq_some_iff.mpr hset) hsettings]
    rfl
  have hagree : ∀ doc : Fields,
      (doc.set "trigger" (.string birthday)).AgreeBut
        ["_id", "trigger"] doc := by
    intro doc name hname
    exact doc.get?_set_other _ fun heq => hname (by simp [heq])
  have hsame : Store.SameTemplates w.templates World.shop.templates birthday
      Trigger.invoiceReady.word :=
    .cons (hagree _) (.cons (hagree _) .nil)
  have hbirthday :=
    unknown_triggers_are_only_reported w [1, 0, 1] birthday data {} {}
  have hinvoice :=
    unknown_triggers_are_only_reported World.shop [1, 0, 1] "invoice_ready"
      data {} {}
  exact ⟨⟨hreports, hsilent, hunmapped, hallows, hsame⟩, hbirthday.1.1 hreports,
    hinvoice.1.2 hsilent,
    hbirthday.2.2 .invoiceReady .absent World.shop.templates hunmapped
      hallows hsame⟩

/-- A settings document without fields is there and reads as settings, but it
does not count as found, so a trigger without a switch is not reported. -/
theorem settings_without_fields_report_nothing :
    let w : World := { World.shop with settings := some [], hook := .records }
    w.faults .settings = none ∧ w.outage.settings = false ∧
      Settings.read .notRecord (.object (Store.content [])) = .ok {} ∧
      (∀ t : Trigger, "birthday" ≠ t.word) ∧
      (w.run (dispatch "birthday" .empty {}) {}).2.reported = [] := by
  refine ⟨rfl, rfl, rfl, fun t => ?_, rfl⟩
  cases t <;> decide

end Notices
