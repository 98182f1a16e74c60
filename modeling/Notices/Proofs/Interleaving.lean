import Notices.Proofs.Steady

/-!
# Calls that are made at the same time

Dispatches and tests that are made at the same time take turns at every
step, and so do the two branches of a dispatch.  They share the log and the
numbers of mails, and what one of them has put there no other one reads.  So
each of them comes to what it comes to alone, and the log has the documents
that each of them writes alone.

* `Dispatch.inTurns` is a dispatch whose branches take turns, and
  `Dispatch.inTurns_nil` says that it is the dispatch if none of them
  is picked before its time.
* `World.AlikeAtMoment` is about programs that read the clock, of which a test
  is one.
* `Task` is a call with an order of turns for its branches, and
  `World.IsSteady.goes_task` says that in all its ways it does what the call
  does alone.
* `calls_do_not_interfere` says so of any number of tasks in any order of turns.
-/

namespace Notices

/-! ## Branches in turns -/

/-- The outcomes of a dispatch, without the id of the mail. -/
def Dispatched.unnumbered (d : Dispatched) : Dispatched where
  email := d.email.map (Outcome.unnumbered .email)
  sms := d.sms.map (Outcome.unnumbered .sms)

namespace Dispatch

/-- The outcome of a branch that went on in turns with others, which is a
failure if the branch failed. -/
def gathered : Option (Except Failure (Option Outcome)) → Option Outcome
  | some (.ok outcome) => outcome
  | some (.error f) => some (.failed (.raised f))
  | none => none

/-- A dispatch whose branches go on in turns. -/
def inTurns (picks : List Nat) (trigger : String) (data : NoticeData)
    (options : SendOptions) :
    Program Dispatched := do
  match ← Program.call .settings with
  | none => return .bothFailed .noSettings
  | some settings =>
    if ← isAllowed settings trigger then
      let outcomes ← Program.weave picks [
        emailBranch trigger data.context settings options,
        smsBranch trigger data.context settings options]
      return { email := gathered outcomes[0]?, sms := gathered outcomes[1]? }
    else return .bothFailed .triggerDisabled

/-- What goes on behind a caught failure does not fail. -/
theorem attempt_attempt_bind {α β : Type} (p : Program α)
    (g : Except Failure α → β) :
    (p.attempt >>= fun a => pure (g a)).attempt = p.attempt >>= fun a =>
      pure (Except.ok (g a)) := by
  show (p.attempt.bind fun a => .done (g a)).attempt = p.attempt.bind fun a =>
      .done (.ok (g a))
  induction p with
  | done a => rfl
  | failed f => rfl
  | ask r next ih => simp only [Program.attempt, Program.bind, ih]

/-- A branch does not fail, so there is nothing to catch. -/
theorem attempt_branch (wanted : Bool) (send : Program Outcome) :
    (branch wanted send).attempt = Except.ok <$> branch wanted send := by
  unfold branch
  cases wanted with
  | false => rfl
  | true =>
      rw [if_pos rfl, attempt_attempt_bind, map_bind]
      simp only [map_pure]

/-- The branches that go on in turns are the same on both channels. -/
theorem inTurns_eq (picks : List Nat) (trigger : String) (data : NoticeData)
    (options : SendOptions) :
    inTurns picks trigger data options = do
      match ← Program.call .settings with
      | none => return .bothFailed .noSettings
      | some settings =>
        if ← isAllowed settings trigger then
          let outcomes ← Program.weave picks [
            branchOn .email trigger data.context settings options,
            branchOn .sms trigger data.context settings options]
          return { email := gathered outcomes[0]?, sms := gathered outcomes[1]?
            }
        else return .bothFailed .triggerDisabled := by
  unfold inTurns
  simp only [emailBranch_eq, smsBranch_eq]

/-- The branches of a dispatch go on one after another if there is
nothing to be picked. -/
theorem inTurns_nil (trigger : String) (data : NoticeData)
    (options : SendOptions) :
    inTurns [] trigger data options = dispatch trigger data options := by
  unfold inTurns dispatch Program.weave emailBranch smsBranch
  simp only [List.mapM_cons, List.mapM_nil, attempt_branch, map_eq_pure_bind,
    bind_assoc, pure_bind]
  rfl

end Dispatch

namespace World

variable {α β γ δ : Type} {w : World} {moments others : Timestamp → Prop}

/-- Two programs in turns agree with two programs one after the other,
if these do not fail. -/
theorem Alike.both {first second : α → α → Prop} {result : γ → δ → Prop}
    {picks : List Nat} {p q p' q' : Program α}
    {k : List (Except Failure α) → Program γ} {l : α → α → Program δ}
    (hp : w.Alike moments others first p p')
    (hq : w.Alike moments others second q q')
    (hpok : ∀ docs f, ¬ w.Goes others p' docs (.error f))
    (hqok : ∀ docs f, ¬ w.Goes others q' docs (.error f))
    (hrest : ∀ a b a' b', first a a' → second b b' →
      w.Alike moments others result (k [.ok a, .ok b]) (l a' b')) :
    w.Alike moments others result (Program.weave picks [p, q] >>= k)
      (p' >>= fun a => q' >>= fun b => l a b) := by
  intro docs docs' r r' h h'
  -- the way of the first program: one for each part, mixed, and then the rest
  rcases h.of_bind with ⟨f, hfailed, -⟩ |
    ⟨results, front, back, rfl, hweave, hk⟩
  · obtain ⟨_, _, hok, -⟩ := hfailed.of_weave
    cases hok
  obtain ⟨docsp, docsq, a, b, hok, hmixed, hgp, hgq⟩ := hweave.of_weave_pair
  obtain rfl := Except.ok.inj hok
  -- the way of the second program: both parts, one behind the
  -- other, and then the rest
  rcases h'.of_bind with ⟨f, hfailed, -⟩ | ⟨a', docsp', rest, rfl, hgp', hrestp⟩
  · exact absurd hfailed (hpok _ _)
  rcases hrestp.of_bind with ⟨f, hfailed, -⟩ |
    ⟨b', docsq', back', rfl, hgq', hl⟩
  · exact absurd hfailed (hqok _ _)
  obtain ⟨hagreep, hdocsp⟩ := hp _ _ _ _ hgp hgp'
  obtain ⟨hagreeq, hdocsq⟩ := hq _ _ _ _ hgq hgq'
  cases hagreep with
  | ok hfirst =>
      cases hagreeq with
      | ok hsecond =>
          obtain ⟨hresult, hback⟩ := hrest _ _ _ _ hfirst hsecond _ _ _ _ hk hl
          refine ⟨hresult, ?_⟩
          have hparted := hdocsp.append (hdocsq.append hback)
          have hfront :=
            (hmixed.map Fields.unstamped).append_right
              (back.map Fields.unstamped)
          have hall := hfront.trans
            (by simpa only [List.map_append, List.append_assoc] using hparted)
          simpa only [List.map_append] using hall

/-- A dispatch in turns agrees with a dispatch. -/
theorem IsSteady.alike_inTurns (hsteady : w.IsSteady) (picks : List Nat)
    (trigger : String) (data : NoticeData) (options : SendOptions) :
    w.Alike moments others (fun a b => a.unnumbered = b.unnumbered)
      (Dispatch.inTurns picks trigger data options)
        (dispatch trigger data options) := by
  have hnever : ∀ channel settings docs f, ¬ w.Goes others
      (Dispatch.branchOn channel trigger data.context settings options) docs
        (.error f) := by
    intro channel settings docs f hfailed
    obtain ⟨_, hok⟩ := goes_branchOn hfailed
    cases hok
  rw [dispatch_eq, Dispatch.inTurns_eq]
  refine alike_settings.bind ?_
  rintro found _ rfl
  cases found with
  | none => exact .pure rfl
  | some settings =>
      refine (alike_isAllowed settings trigger).bind ?_
      rintro allowed _ rfl
      cases allowed with
      | false => exact .pure rfl
      | true =>
          refine Alike.both hsteady.alike_branchOn hsteady.alike_branchOn
            (hnever .email settings)
            (hnever .sms settings) ?_
          intro email sms email' sms' hemail hsms
          refine .pure ?_
          show Dispatched.mk _ _ = Dispatched.mk _ _
          simp only [Dispatch.gathered, List.getElem?_cons_zero,
            List.getElem?_cons_succ, hemail, hsms]

/-! ## Tests, which read the clock -/

/-- Two programs agree at a moment if each way of the first one has a moment
at which the second one, in all its ways, comes to a related result and
writes the same documents. -/
def AlikeAtMoment (w : World) (moments : Timestamp → Prop)
    (related : α → β → Prop) (p : Program α) (q : Program β) : Prop :=
  ∀ docs result, w.Goes moments p docs result → ∃ now, moments now ∧
    ∀ docs' result', w.Goes (· = now) q docs' result' →
      Agree related result result' ∧
        (docs.map Fields.unstamped).Perm (docs'.map Fields.unstamped)

/-- Programs that agree whatever the time is agree at any moment. -/
theorem Alike.atMoment {related : α → β → Prop} {p : Program α} {q : Program β}
    {start : Timestamp} (hstart : moments start)
    (h : w.Alike moments (· = start) related p q) :
    w.AlikeAtMoment moments related p q :=
  fun docs result hgoes =>
    ⟨start, hstart, fun docs' result' => h docs docs' result result' hgoes⟩

/-- Sequences agree at a moment if their first parts come to the same whatever
the time is and the rests agree at a moment. -/
theorem AlikeAtMoment.bind {result : γ → δ → Prop} {p q : Program α}
    {k : α → Program γ} {l : α → Program δ} {start : Timestamp}
    (hstart : moments start) (hfirst : ∀ now, w.Alike moments (· = now) Eq p q)
    (hrest : ∀ docs a, w.Goes moments p docs (.ok a) →
      w.AlikeAtMoment moments result (k a) (l a)) :
    w.AlikeAtMoment moments result (p >>= k) (q >>= l) := by
  intro docs r hp
  rcases hp.of_bind with ⟨f, hpf, rfl⟩ | ⟨a, front, back, rfl, hpa, hka⟩
  · refine ⟨start, hstart, fun docs' r' hq => ?_⟩
    rcases hq.of_bind with ⟨g, hqg, rfl⟩ | ⟨b, front', back', rfl, hqb, hlb⟩
    · obtain ⟨hagree, hdocs⟩ := hfirst start _ _ _ _ hpf hqg
      cases hagree
      exact ⟨.error f, hdocs⟩
    · cases (hfirst start _ _ _ _ hpf hqb).1
  · -- the moment is that of the rest, which goes on with the value that both
    -- first parts come to
    obtain ⟨now, hnow, hback⟩ := hrest front a hpa back r hka
    refine ⟨now, hnow, fun docs' r' hq => ?_⟩
    rcases hq.of_bind with ⟨g, hqg, rfl⟩ | ⟨b, front', back', rfl, hqb, hlb⟩
    · cases (hfirst now _ _ _ _ hpa hqg).1
    · obtain ⟨hagree, hdocs⟩ := hfirst now _ _ _ _ hpa hqb
      obtain rfl := Except.ok.inj hagree.eq
      obtain ⟨hresult, hmore⟩ := hback _ _ hlb
      rw [List.map_append, List.map_append]
      exact ⟨hresult, hdocs.append hmore⟩

/-- Programs that read the clock first agree at a moment if they
agree whatever it shows. -/
theorem alikeAtMoment_now {related : α → β → Prop} {k : Timestamp → Program α}
    {l : Timestamp → Program β}
    (hrest : ∀ now, moments now →
      w.Alike moments (· = now) related (k now) (l now)) :
    w.AlikeAtMoment moments related (Program.call .now >>= k)
      (Program.call .now >>= l) := by
  have hway : ∀ {moments docs answer},
      w.Goes moments (Program.call .now) docs answer →
      ∃ now, moments now ∧ answer = .ok now ∧ docs = [] := by
    intro moments docs answer h
    obtain ⟨s, now, hnow, rfl, hlog⟩ := h.of_call
    rw [log_answer_of_ne _ _ (by simp)] at hlog
    exact ⟨now, hnow rfl, rfl, by simpa using hlog⟩
  intro docs r hp
  rcases hp.of_bind with ⟨f, hpf, -⟩ | ⟨now, front, back, rfl, hread, hk⟩
  · obtain ⟨_, _, hok, _⟩ := hway hpf
    cases hok
  obtain ⟨_, hnow, hok, rfl⟩ := hway hread
  obtain rfl := Except.ok.inj hok
  -- the second program is run at the very time that the first one has read
  refine ⟨now, hnow, fun docs' r' hq => ?_⟩
  rcases hq.of_bind with ⟨f, hqf, -⟩ | ⟨now', front', back', rfl, hread', hl⟩
  · obtain ⟨_, _, hok, _⟩ := hway hqf
    cases hok
  obtain ⟨_, rfl, hok, rfl⟩ := hway hread'
  obtain rfl := Except.ok.inj hok
  exact hrest now' hnow _ _ _ _ hk hl

/-- The outcome of a test without the id of a mail, if it is the test of a
mail. -/
def unnumberedTest (w : World) (templateId : String) (outcome : Outcome) :
    Outcome :=
  (w.templateById? templateId).elim outcome fun template =>
    outcome.unnumbered template.channel

/-- A test agrees with itself at some moment. -/
theorem IsSteady.alike_sendTest (hsteady : w.IsSteady) {start : Timestamp}
    (hstart : moments start) (templateId recipient : String) :
    w.AlikeAtMoment moments
      (fun a b => w.unnumberedTest templateId a = w.unnumberedTest templateId b)
      (sendTest templateId recipient) (sendTest templateId recipient) := by
  unfold sendTest
  have hread := w.answer_templateById templateId
  refine .bind hstart (fun now => alike_of_read _ hread)
    fun docs found hgoes => ?_
  cases found with
  | none =>
      refine Alike.atMoment hstart ?_
      exact .pure rfl
  | some template =>
      have hfound : w.templateById? templateId = some template :=
        unlessFault_eq_ok (goes_of_read hread hgoes).1.symm
      refine .bind hstart (fun now => alike_settings) fun _ found _ => ?_
      cases found with
      | none =>
          refine Alike.atMoment hstart ?_
          exact .pure rfl
      | some settings =>
          unfold TestSend.sample
          dsimp only
          rw [bind_assoc]
          refine alikeAtMoment_now fun now hnow => ?_
          cases hsample : Sample.context? now with
          | none => exact Alike.failed _
          | some data =>
              let letter :=
                template.letter template.channel (TestSend.mark ++ ·) settings
                  data recipient
              have hdeliver : w.Alike moments (· = now)
                  (fun a b => a.unnumbered letter.channel =
                    b.unnumbered letter.channel)
                  (letter.deliver template.id (.ok {}))
                  (letter.deliver template.id (.ok {})) :=
                hsteady.alike_deliver letter template.id (.ok {})
              rw [Template.channel_letter] at hdeliver
              show w.Alike moments
                  (· = now) _ (TestSend.send template recipient settings data)
                (TestSend.send template recipient settings data)
              rw [TestSend.send_eq_deliver
                (TestSend.fieldsAreWritable_sample hsample)]
              refine hdeliver.mono fun a b hsame => ?_
              unfold unnumberedTest
              rw [hfound]
              exact hsame

/-- Programs whose values are taken further agree if the values that they are
taken to are related. -/
theorem AlikeAtMoment.map {related : α → β → Prop} {further : γ → δ → Prop}
    {p : Program α} {q : Program β} {f : α → γ} {g : β → δ}
    (h : w.AlikeAtMoment moments related p q)
    (himp : ∀ a b, related a b → further (f a) (g b)) :
    w.AlikeAtMoment moments further (f <$> p) (g <$> q) := by
  intro docs r hp
  obtain ⟨a, rfl, hpa⟩ := hp.of_map
  obtain ⟨now, hnow, hagrees⟩ := h docs a hpa
  refine ⟨now, hnow, fun docs' r' hq => ?_⟩
  obtain ⟨b, rfl, hqb⟩ := hq.of_map
  obtain ⟨hagree, hdocs⟩ := hagrees docs' b hqb
  exact ⟨hagree.map himp, hdocs⟩

end World

/-! ## Tasks -/

/-- What the service is asked to send: a notice for a trigger, or a test of a
template. -/
inductive Call where
  | dispatch (trigger : String) (data : NoticeData) (options : SendOptions)
  | test (templateId recipient : String)

/-- What a call comes to. -/
inductive Returned where
  | dispatched (d : Dispatched)
  | tested (outcome : Outcome)

/-- The program of a call. -/
def Call.program : Call → Program Returned
  | .dispatch trigger data options =>
      .dispatched <$> Notices.dispatch trigger data options
  | .test templateId recipient => .tested <$> sendTest templateId recipient

/-- A call that is made at the same time as others.  If it is a dispatch, there
is an order in which its branches take turns. -/
structure Task where
  call : Call
  branchPicks : List Nat

/-- The program of a task. -/
def Task.program (t : Task) : Program Returned :=
  match t.call with
  | .dispatch trigger data options =>
    .dispatched <$> Dispatch.inTurns t.branchPicks trigger data options
  | .test templateId recipient => .tested <$> sendTest templateId recipient

namespace World

/-- What a call comes to, without the ids of mails. -/
def unnumbered (w : World) : Call → Returned → Returned
  | _, .dispatched d => .dispatched d.unnumbered
  | .test templateId _, .tested outcome =>
      .tested (w.unnumberedTest templateId outcome)
  | .dispatch .., .tested outcome => .tested outcome

/-- What a call comes to if it is made alone at some time, and the documents it
writes, both without what is generated. -/
def alone (w : World) (call : Call) (now : Timestamp) (s : State) :
    Except Failure Returned × List Fields :=
  let run := (w.atTime now).run call.program s
  (run.1.map (w.unnumbered call),
    (run.2.log.drop s.log.length).map Fields.unstamped)

/-- Calls come to what they come to alone: there is for each of them one of
certain moments, such that the results are those of the calls alone at these
moments, and the documents are those that the calls write alone, each as often
as they do, in any order. -/
def GoAlone (w : World) (moments : Timestamp → Prop) (s : State)
    (calls : List Call) (results : List (Except Failure Returned))
    (docs : List Fields) : Prop :=
  ∃ timed : List (Call × Timestamp), timed.map (·.1) = calls ∧
    (∀ call ∈ timed, moments call.2) ∧
    List.Forall₂ (fun call result => result.map (w.unnumbered call.1) =
      (w.alone call.1 call.2 s).1)
      timed results ∧
    (docs.map Fields.unstamped).Perm
      (timed.flatMap fun call => (w.alone call.1 call.2 s).2)

variable {w : World} {moments : Timestamp → Prop}

/-- A task agrees with its call at some moment. -/
theorem IsSteady.alike_task (hsteady : w.IsSteady) {start : Timestamp}
    (hstart : moments start) (t : Task) :
    w.AlikeAtMoment moments
      (fun a b => w.unnumbered t.call a = w.unnumbered t.call b) t.program
      t.call.program := by
  obtain ⟨call, picks⟩ := t
  cases call with
  | dispatch trigger data options =>
      exact ((hsteady.alike_inTurns picks trigger data options).atMoment
        hstart).map
        fun _ _ h => congrArg Returned.dispatched h
  | test templateId recipient =>
      exact (hsteady.alike_sendTest hstart templateId recipient).map
        fun _ _ h => congrArg Returned.tested h

/-- A way of a task is what its call comes to alone at some moment. -/
theorem IsSteady.goes_task (hsteady : w.IsSteady) {start : Timestamp}
    (hstart : moments start) (t : Task) (s : State) {docs : List Fields}
    {result : Except Failure Returned}
    (h : w.Goes moments t.program docs result) :
    ∃ now, moments now ∧
      result.map (w.unnumbered t.call) = (w.alone t.call now s).1 ∧
      (docs.map Fields.unstamped).Perm (w.alone t.call now s).2 := by
  obtain ⟨now, hnow, hagrees⟩ := hsteady.alike_task hstart t docs result h
  obtain ⟨written, hlog, hgoes⟩ := w.goes_run now t.call.program s
  obtain ⟨hagree, hdocs⟩ := hagrees written _ hgoes
  refine ⟨now, hnow, hagree.map_eq, ?_⟩
  simp only [alone, hlog, List.drop_left]
  exact hdocs

/-- Several tasks, each in a way of its own, come to what their calls come to
alone. -/
theorem IsSteady.goes_tasks (hsteady : w.IsSteady) {start : Timestamp}
    (hstart : moments start) (s : State) {tasks : List Task}
    {parts : List (List Fields × Except Failure Returned)}
    (h : Goes.Parts w moments (tasks.map Task.program) parts) :
    w.GoAlone moments s (tasks.map (·.call)) (parts.map (·.2))
      (parts.flatMap (·.1)) := by
  induction tasks generalizing parts with
  | nil =>
      cases h
      exact ⟨[], rfl, by simp, .nil, .refl _⟩
  | cons t tasks ih =>
      cases h with
      | @cons _ part _ parts hfirst hrest =>
          obtain ⟨now, hnow, hresult, hdocs⟩ :=
            hsteady.goes_task hstart t s hfirst
          obtain ⟨timed, hcalls, hmoments, hresults, hmore⟩ := ih hrest
          refine ⟨(t.call, now) :: timed, by
            simp [hcalls], ?_, .cons hresult hresults, ?_⟩
          · intro call hcall
            rcases List.mem_cons.mp hcall with rfl | hcall
            · exact hnow
            · exact hmoments call hcall
          · rw [List.flatMap_cons, List.flatMap_cons, List.map_append]
            exact hdocs.append hmore

end World

/-- **Calls that do not interfere.**  Any number of dispatches and tests are
made at the same time, in a steady world, and take turns in any order, and so do
the branches of each dispatch, while the clock goes on.  Then each call comes to
what it comes to if it is made alone at some moment of that time, and the log
grows by the documents that the calls write alone, up to what is generated. -/
theorem calls_do_not_interfere {w : World} (hsteady : w.IsSteady)
    (clock : Nat → Timestamp) (tasks : List Task) (picks : List Nat)
    (s : State) :
    let whole :=
      w.runWhile clock 0 (Program.weave picks (tasks.map Task.program)) s
    ∃ results docs, whole.1 = .ok results ∧ whole.2.log = s.log ++ docs ∧
      w.GoAlone (fun now => ∃ n, now = clock n) s (tasks.map (·.call)) results
        docs := by
  intro whole
  obtain ⟨docs, hlog, hgoes⟩ :=
    w.goes_runWhile clock 0 (Program.weave picks (tasks.map Task.program)) s
  obtain ⟨parts, hparts, hresult, hmixed⟩ := hgoes.of_weave
  obtain ⟨timed, hcalls, hmoments, hresults, hdocs⟩ :=
    hsteady.goes_tasks ⟨0, rfl⟩ s hparts
  exact ⟨_, docs, hresult, hlog, timed, hcalls, hmoments, hresults,
    (hmixed.map Fields.unstamped).trans hdocs⟩

/-- The shop is steady, so the notice of an invoice and a test that are made
there at the same time, while the clock goes on, do not interfere. -/
theorem invoice_and_test_do_not_interfere :
    let invoice :=
      Call.dispatch "invoice_ready"
        ⟨[("customer_email", .string "ana@example.com")]⟩ {}
    let tasks : List Task :=
      [⟨invoice, [1, 0, 1]⟩, ⟨.test "mail-1" "shop@example.com", []⟩]
    let clock (n : Nat) : Timestamp := World.shop.now.addSeconds n
    World.shop.IsSteady ∧
    let whole :=
      World.shop.runWhile clock 0
        (Program.weave [0, 1, 1, 0, 0, 1] (tasks.map Task.program)) {}
    ∃ results docs, whole.1 = .ok results ∧
      whole.2.log = ({} : State).log ++ docs ∧
      World.shop.GoAlone (fun now => ∃ n, now = clock n) {}
        (tasks.map (·.call)) results docs := by
  intro invoice tasks clock
  have hsteady : World.shop.IsSteady :=
    ⟨fun _ _ _ _ _ => rfl, fun _ _ _ => rfl, fun _ _ => rfl⟩
  exact ⟨hsteady,
    calls_do_not_interfere hsteady clock tasks [0, 1, 1, 0, 0, 1] {}⟩

end Notices
