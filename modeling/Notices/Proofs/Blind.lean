import Notices.Proofs.Interleaving

/-!
# Programs that are blind to the log

The service writes to the log, but it does not ask whether a write went through,
and unless it is asked for the log it does not read it.

* `Program.IsBlind` says that a program depends neither on the log
  nor on how its writes fare.
* `Dispatch.isBlind_inTurns`, `isBlind_sendTest` and `isBlind_status` say that
  the operations of the service are such programs.
-/

namespace Notices

/-! ## What a blind program is -/

/-- Whether a request is about the log. -/
def Request.isAboutLog : Request → Bool
  | .record _ | .recent _ => true
  | _ => false

namespace Program

variable {α β : Type}

/-- A program is blind to the log if it never reads it, and goes on in the same
way whether a write went through or not. -/
inductive IsBlind : Program α → Prop
  | done (a : α) : IsBlind (.done a)
  | failed (f : Failure) : IsBlind (.failed f)
  | ask {r : Request} {next : Except Failure r.Answer → Program α}
      (elsewhere : r.isAboutLog = false)
      (further : ∀ answer, IsBlind (next answer)) : IsBlind (.ask r next)
  | record {attempt : Attempt} {next : Except Failure Bool → Program α}
      (heedless : next (.ok true) = next (.ok false))
      (further : ∀ answer, IsBlind (next answer)) :
      IsBlind (.ask (.record attempt) next)

namespace IsBlind

/-- What a blind program goes on with is blind. -/
theorem next {r : Request} {next : Except Failure r.Answer → Program α}
    (hp : (Program.ask r next).IsBlind) (answer : Except Failure r.Answer) :
    (next answer).IsBlind := by
  cases hp with
  | ask _ further => exact further answer
  | record _ further => exact further answer

theorem bind {p : Program α} {k : α → Program β} (hp : p.IsBlind)
    (hk : ∀ a, (k a).IsBlind) :
    (p >>= k).IsBlind := by
  show (p.bind k).IsBlind
  induction hp with
  | done a => exact hk a
  | failed f => exact .failed f
  | ask elsewhere _ ih => exact .ask elsewhere ih
  | record heedless _ ih =>
      exact .record (congrArg (Program.bind · k) heedless) ih

theorem map {p : Program α} (hp : p.IsBlind) (f : α → β) :
    (f <$> p).IsBlind := by
  rw [map_eq_pure_bind]
  exact hp.bind fun a => .done (f a)

theorem attempt {p : Program α} (hp : p.IsBlind) : p.attempt.IsBlind := by
  induction hp with
  | done a => exact .done (Except.ok a)
  | failed f => exact .done (Except.error f)
  | ask elsewhere _ ih => exact .ask elsewhere ih
  | record heedless _ ih => exact .record (congrArg Program.attempt heedless) ih

/-- A request that is not about the log is blind to it. -/
theorem call {r : Request} (elsewhere : r.isAboutLog = false) :
    (Program.call r).IsBlind := by
  refine .ask elsewhere fun answer => ?_
  cases answer with
  | ok a => exact .done a
  | error f => exact .failed f

/-- An attempt may be recorded before a blind program, which does not learn
whether it was written. -/
theorem record_bind {p : Program α} (hp : p.IsBlind) (attempt : Attempt) :
    (Program.call (.record attempt) >>= fun _ => p).IsBlind := by
  refine .record rfl fun answer => ?_
  cases answer with
  | ok written => exact hp
  | error f => exact .failed f

/-- Blind programs one after another are blind. -/
theorem mapM_attempt {programs : List (Program α)}
    (h : ∀ p ∈ programs, p.IsBlind) :
    (programs.mapM Program.attempt).IsBlind := by
  induction programs with
  | nil => exact .done []
  | cons p programs ih =>
      rw [List.mapM_cons]
      refine (h p (by simp)).attempt.bind fun caught => ?_
      exact (ih fun q hq => h q (by simp [hq])).bind fun results =>
        .done (caught :: results)

/-- If one of several blind programs is replaced by a blind one, all are still
blind. -/
theorem of_mem_set {programs : List (Program α)} (h : ∀ p ∈ programs, p.IsBlind)
    {q : Program α} (hq : q.IsBlind) (place : Nat) :
    ∀ p ∈ programs.set place q, p.IsBlind := by
  intro p hp
  rcases List.mem_or_eq_of_mem_set hp with hp | rfl
  · exact h p hp
  · exact hq

/-- Blind programs in turns are blind. -/
theorem weave {programs : List (Program α)} (h : ∀ p ∈ programs, p.IsBlind)
    (picks : List Nat) :
    (Program.weave picks programs).IsBlind := by
  induction picks generalizing programs with
  | nil => exact mapM_attempt h
  | cons pick picks ih =>
      unfold Program.weave
      split
      · next r next hpicked =>
        have hasked := h _ (List.mem_of_getElem? hpicked)
        have hrest := fun answer => ih (of_mem_set h (hasked.next answer) pick)
        cases hasked with
        | ask elsewhere _ => exact .ask elsewhere hrest
        | record heedless _ => exact .record (by rw [heedless]) hrest
      · exact ih h

end IsBlind

end Program

/-! ## The operations of the service are blind -/

/-- Handing a letter over is not about the log. -/
theorem Letter.isBlind_hand (l : Letter) : l.hand.IsBlind := by
  cases l with
  | email mail => exact .call rfl
  | sms recipient body => exact .call rfl

/-- A delivery does not learn whether its attempt was written. -/
theorem Letter.isBlind_deliver (l : Letter) (templateId : String)
    (links : Except Failure Links) :
    (l.deliver templateId links).IsBlind := by
  refine l.isBlind_hand.attempt.bind fun answer => ?_
  cases links with
  | error f => exact .failed f
  | ok links =>
      let outcome := Notice.outcomeOf answer
      exact .record_bind (.done outcome) (l.attempt templateId links outcome)

namespace Dispatch

theorem isBlind_isAllowed (settings : Settings) (trigger : String) :
    (isAllowed settings trigger).IsBlind := by
  unfold isAllowed
  cases Trigger.ofWord? trigger with
  | some t => exact .done (settings.allows t)
  | none =>
      have hcall : (Program.call (.unknownTrigger trigger)).IsBlind := .call rfl
      exact hcall.attempt.bind fun _ => .done true

theorem isBlind_branchOn (channel : Channel) (trigger : String)
    (context : Fields) (settings : Settings) (options : SendOptions) :
    (branchOn channel trigger context settings options).IsBlind := by
  have hsend : (sendOn channel trigger context settings options).IsBlind := by
    have hread : (Program.call (.template channel trigger)).IsBlind := .call rfl
    refine (hread.bind fun template =>
      .done (Option.filter (·.enabled) template)).bind fun usable => ?_
    cases usable with
    | none => exact .done _
    | some template =>
        dsimp only
        cases recipient? (channel.forced options) context
          channel.contactField with
        | none => exact .done _
        | some recipient =>
            dsimp only
            rcases post_cases channel context settings template recipient with
              ⟨l, -, hpost⟩ | hpost
            · rw [hpost]
              exact l.isBlind_deliver _ _
            · rw [hpost]
              exact .failed _
  unfold branchOn branch
  split
  · exact hsend.attempt.bind fun answer =>
      .done (some (Notice.outcomeOf answer))
  · exact .done none

/-- A dispatch whose branches take turns is blind to the log. -/
theorem isBlind_inTurns (picks : List Nat) (trigger : String)
    (data : NoticeData) (options : SendOptions) :
    (inTurns picks trigger data options).IsBlind := by
  have hread : (Program.call .settings).IsBlind := .call rfl
  rw [inTurns_eq]
  refine hread.bind fun found => ?_
  cases found with
  | none => exact .done _
  | some settings =>
      refine (isBlind_isAllowed settings trigger).bind fun allowed => ?_
      cases allowed with
      | false => exact .done _
      | true =>
          have hbranches : ∀ p ∈
              [branchOn .email trigger data.context settings options,
              branchOn .sms trigger data.context settings options],
                p.IsBlind := by
            simp [isBlind_branchOn]
          exact (Program.IsBlind.weave hbranches picks).bind
            fun outcomes => .done _

end Dispatch

/-- A test is blind to the log. -/
theorem isBlind_sendTest (templateId recipient : String) :
    (sendTest templateId recipient).IsBlind := by
  have htemplate : (Program.call (.templateById templateId)).IsBlind :=
    .call rfl
  have hsettings : (Program.call .settings).IsBlind := .call rfl
  have hsample : TestSend.sample.IsBlind := by
    have hnow : (Program.call .now).IsBlind := .call rfl
    refine hnow.bind fun now => ?_
    cases Sample.context? now with
    | none => exact .failed TestSend.outOfRange
    | some context => exact .done context
  refine htemplate.bind fun found => ?_
  cases found with
  | none => exact .done _
  | some template =>
      refine hsettings.bind fun found => ?_
      cases found with
      | none => exact .done _
      | some settings =>
          refine hsample.bind fun data => ?_
          rw [TestSend.send_eq_post]
          rcases template.letter?_cases template.channel (TestSend.mark ++ ·)
            settings data
            (.string recipient) with ⟨l, -, hletter⟩ | hletter
          · rw [hletter, pure_bind]
            exact l.isBlind_deliver _ _
          · rw [hletter]
            exact .failed _

/-- A status report is blind to the log. -/
theorem isBlind_status (emailConfigured smsConfigured : Bool) :
    (status emailConfigured smsConfigured).IsBlind := by
  have hsettings : (Program.call .settings).IsBlind := .call rfl
  exact hsettings.bind fun settings => .done _

end Notices
