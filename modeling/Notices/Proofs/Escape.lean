import Notices.Proofs.Audit
import Notices.Service.Report

/-!
# Failures that get through

The branches of a dispatch and the calls of clients are guarded: what fails
there becomes an outcome.  Other steps are not guarded, and a failure of theirs
is a failure of the whole operation.  Here it is said which failures these are.

* `World.testLetter?` is what a test finds out before it sends, and
  `World.result_sendTest` says that a test comes to that or to what its delivery
  comes to.
* `World.TestFails` has the four steps at which a test can fail.
* `failures_that_get_through` says which failures of replaced collaborators
  end a dispatch or a test.
* `own_collaborators_let_nothing_through` says that no operation of the service
  with its own stores and clients fails, but for a test whose sample would be
  due after the last year of the calendar.
-/

namespace Notices

namespace World

/-! ## What a single operation comes to -/

/-- What goes on with a collaborator that fails, fails with it. -/
@[simp] theorem unlessFault_some_bind {α β : Type} (f : Failure) (found : α)
    (next : α → Except Failure β) :
    (unlessFault (some f) found >>= next) = .error f := rfl

/-- What goes on with a collaborator that works goes on with what it finds. -/
@[simp] theorem unlessFault_none_bind {α β : Type} (found : α)
    (next : α → Except Failure β) :
    (unlessFault none found >>= next) = next found := rfl

/-- A collaborator fails with the failure that it is made to fail with. -/
@[simp] theorem unlessFault_eq_error_iff {α : Type} {fault : Option Failure}
    {found : α} {f : Failure} :
    unlessFault fault found = .error f ↔ fault = some f := by
  cases fault <;> simp [unlessFault]

/-- Recording an attempt says whether it was written, unless the log fails. -/
theorem result_record (w : World) (attempt : Attempt) (s : State) :
    (w.answer s (.record attempt)).1 =
      unlessFault (w.faults .log) (!w.outage.writeLog s.writes) := by
  cases hfault : w.faults .log with
  | some f => simp [answer, collaborator?, hfault, unlessFault]
  | none =>
      cases hwrite : w.outage.writeLog s.writes <;>
        simp [answer, collaborator?, hfault, unlessFault, serve, record, hwrite]

/-- A delivery comes to what became of the letter, whatever that is,
unless the log fails. -/
theorem result_deliver (w : World) (l : Letter) (templateId : String)
    (links : Links) (s : State) :
    (w.course (l.deliver templateId (.ok links)) s).result =
      unlessFault (w.faults .log) (Notice.outcomeOf (w.hand l s).1) := by
  rw [course_deliver, result_record]
  cases w.faults .log <;> rfl

/-- A dispatch whose settings store works comes to outcomes. -/
theorem result_dispatch_of_none (w : World) (trigger : String)
    (data : NoticeData) (options : SendOptions)
    (hfault : w.faults .settings = none) (s : State) :
    ∃ dispatched,
      (w.course (dispatch trigger data options) s).result = .ok dispatched := by
  cases hset : w.settings? with
  | none =>
      exact ⟨_, by rw [course_dispatch_unset trigger data options hfault hset]⟩
  | some settings =>
      cases hpermits : settings.permits trigger with
      | false =>
          exact ⟨_, by
            rw [course_dispatch_forbidden trigger data options hfault hset
              hpermits]⟩
      | true =>
          obtain ⟨_, _, _, _, _, _, hresult, _⟩ :=
            course_dispatch_permitted trigger data options hfault hset
              hpermits s
          exact ⟨_, hresult⟩

/-- A dispatch fails only if the settings store does, and with its failure. -/
theorem result_dispatch_eq_error_iff (w : World) (trigger : String)
    (data : NoticeData) (options : SendOptions) (s : State) (f : Failure) :
    (w.course (dispatch trigger data options) s).result = .error f ↔
      w.faults .settings = some f := by
  cases hfault : w.faults .settings with
  | some g =>
      rw [course_dispatch_of_fault trigger data options hfault]
      simp
  | none =>
      obtain ⟨dispatched, hresult⟩ :=
        w.result_dispatch_of_none trigger data options hfault s
      simp [hresult]

/-! ## What a test comes to -/

/-- What a test finds out before it sends: a template with the letter
that is written by it, or why there is nothing to send, or the
failure that ends the test. -/
def testLetter? (w : World) (templateId recipient : String) :
    Except Failure (Except SendError (Template × Letter)) := do
  match ← unlessFault (w.faults .templateById) (w.templateById? templateId) with
  | none => .ok (.error .templateNotFound)
  | some template =>
    match ← unlessFault (w.faults .settings) w.settings? with
    | none => .ok (.error .noSettingsForTest)
    | some settings =>
      match Sample.context? w.now with
      | none => .error TestSend.outOfRange
      | some data =>
        .ok (.ok (template,
          template.letter template.channel (TestSend.mark ++ ·) settings data
            recipient))

/-- A test comes to what it finds out, or to what the delivery of its letter
comes to. -/
theorem result_sendTest (w : World) (templateId recipient : String)
    (s : State) :
    (w.course (sendTest templateId recipient) s).result =
      match w.testLetter? templateId recipient with
      | .error f => .error f
      | .ok (.error cause) => .ok (.failed cause)
      | .ok (.ok (template, letter)) =>
        (w.course (letter.deliver template.id (.ok {})) s).result := by
  unfold sendTest testLetter?
  rw [course_bind, course_templateById]
  cases w.faults .templateById with
  | some f => rfl
  | none =>
      cases w.templateById? templateId with
      | none => rfl
      | some template =>
          simp only [unlessFault, Course.andThen_ok]
          rw [course_bind, course_settings]
          cases w.faults .settings with
          | some f => rfl
          | none =>
              cases w.settings? with
              | none => rfl
              | some settings =>
                  simp only [unlessFault, Course.andThen_ok]
                  rw [course_bind, course_sample]
                  cases hsample : Sample.context? w.now with
                  | none => rfl
                  | some data =>
                      simp only [Option.elim_some, Course.andThen_ok,
                        TestSend.send_eq_deliver
                          (TestSend.fieldsAreWritable_sample hsample)]
                      rfl

/-- A test fails if it finds a failure, or if it finds a letter and the log
fails. -/
theorem result_sendTest_eq_error_iff_found (w : World)
    (templateId recipient : String) (s : State) (f : Failure) :
    (w.course (sendTest templateId recipient) s).result = .error f ↔
      w.testLetter? templateId recipient = .error f ∨
        ∃ found, w.testLetter? templateId recipient = .ok (.ok found) ∧
          w.faults .log = some f := by
  rw [result_sendTest]
  cases hfound : w.testLetter? templateId recipient with
  | error g => simp
  | ok found =>
      cases found with
      | error cause => simp
      | ok letter => simp [result_deliver]

/-- A test can fail at the steps that are not guarded, each of which is only
taken if the ones before it found what they look for: it reads the template, it
reads the settings, it works out when the sample is due, and it records what
became of the letter. -/
inductive TestFails (w : World) (templateId : String) : Failure → Prop
  | template {f : Failure}
      (fault : w.faults .templateById = some f) : TestFails w templateId f
  | settings {f : Failure} (reads : w.faults .templateById = none)
      (found : w.templateById? templateId ≠ none)
      (fault : w.faults .settings = some f) :
      TestFails w templateId f
  | sample (reads : w.faults .templateById = none ∧ w.faults .settings = none)
      (found : w.templateById? templateId ≠ none ∧ w.settings? ≠ none)
      (late : Sample.context? w.now = none) :
        TestFails w templateId TestSend.outOfRange
  | log {f : Failure}
      (reads : w.faults .templateById = none ∧ w.faults .settings = none)
      (found : w.templateById? templateId ≠ none ∧ w.settings? ≠ none)
      (due : Sample.context? w.now ≠ none) (fault : w.faults .log = some f) :
      TestFails w templateId f

/-- A test fails at one of these steps, and at no other. -/
theorem result_sendTest_eq_error_iff (w : World) (templateId recipient : String)
    (s : State) (f : Failure) :
    (w.course (sendTest templateId recipient) s).result = .error f ↔
      w.TestFails templateId f := by
  rw [result_sendTest_eq_error_iff_found]
  unfold testLetter?
  constructor
  · intro h
    cases hread : w.faults .templateById with
    | some g =>
        obtain rfl : g = f := by simpa [hread] using h
        exact .template hread
    | none =>
        cases htemplate : w.templateById? templateId with
        | none => simp [hread, htemplate] at h
        | some template =>
            have hfound : w.templateById? templateId ≠ none := by
              simp [htemplate]
            cases hsettings : w.faults .settings with
            | some g =>
                obtain rfl : g = f := by
                  simpa [hread, htemplate, hsettings] using h
                exact .settings hread hfound hsettings
            | none =>
                cases hset : w.settings? with
                | none => simp [hread, htemplate, hsettings, hset] at h
                | some settings =>
                    have hthere : w.settings? ≠ none := by simp [hset]
                    cases hsample : Sample.context? w.now with
                    | none =>
                        obtain rfl : TestSend.outOfRange = f := by
                          simpa [hread, htemplate, hsettings, hset, hsample]
                            using h
                        exact .sample ⟨hread, hsettings⟩
                          ⟨hfound, hthere⟩ hsample
                    | some data =>
                        have hlog : w.faults .log = some f := by
                          simpa [hread, htemplate, hsettings, hset, hsample]
                            using h
                        exact .log ⟨hread, hsettings⟩ ⟨hfound, hthere⟩
                          (by simp [hsample]) hlog
  · intro h
    cases h with
    | template hread => simp [hread]
    | settings hread hfound hsettings =>
        obtain ⟨template, htemplate⟩ := Option.ne_none_iff_exists'.mp hfound
        simp [hread, htemplate, hsettings]
    | sample hreads hfound hlate =>
        obtain ⟨template, htemplate⟩ := Option.ne_none_iff_exists'.mp hfound.1
        obtain ⟨settings, hset⟩ := Option.ne_none_iff_exists'.mp hfound.2
        simp [hreads.1, hreads.2, htemplate, hset, hlate]
    | log hreads hfound hdue hlog =>
        obtain ⟨template, htemplate⟩ := Option.ne_none_iff_exists'.mp hfound.1
        obtain ⟨settings, hset⟩ := Option.ne_none_iff_exists'.mp hfound.2
        obtain ⟨data, hsample⟩ := Option.ne_none_iff_exists'.mp hdue
        simp [hreads.1, hreads.2, htemplate, hset, hsample, hlog]

end World

/-! ## What gets through -/

/-- What does not come to a failure comes to a value. -/
theorem exists_eq_ok_iff {α : Type} {result : Except Failure α} :
    (∃ a, result = .ok a) ↔ ∀ f, result ≠ .error f := by
  cases result <;> simp

/-- **Replaced collaborators.**  Whatever collaborators of the service are
replaced by ones that fail, a dispatch fails if and only if the settings store
does, with the same failure, and else it comes to outcomes: the template store,
the log and the clients can fail as they like.  A test fails if and only if one
of its unguarded steps does, and else it comes to an outcome: only the clients
can fail as they like. -/
theorem failures_that_get_through (w : World) (s : State) :
    (∀ (trigger : String) (data : NoticeData) (options : SendOptions),
      ((∃ dispatched,
        (w.run (dispatch trigger data options) s).1 = .ok dispatched) ↔
        w.faults .settings = none) ∧
      ∀ f, (w.run (dispatch trigger data options) s).1 = .error f ↔
        w.faults .settings = some f) ∧
    ∀ templateId recipient : String,
      ((∃ outcome, (w.run (sendTest templateId recipient) s).1 = .ok outcome) ↔
        ∀ f, ¬ w.TestFails templateId f) ∧
      ∀ f, (w.run (sendTest templateId recipient) s).1 = .error f ↔
        w.TestFails templateId f := by
  constructor
  · intro trigger data options
    have hfails := w.result_dispatch_eq_error_iff trigger data options s
    refine ⟨?_, hfails⟩
    rw [exists_eq_ok_iff, Option.eq_none_iff_forall_ne_some]
    exact forall_congr' fun f => not_congr (hfails f)
  · intro templateId recipient
    have hfails := w.result_sendTest_eq_error_iff templateId recipient s
    refine ⟨?_, hfails⟩
    rw [exists_eq_ok_iff]
    exact forall_congr' fun f => not_congr (hfails f)

/-- In the shop with a settings store that fails, a dispatch fails
with it.  With a log that fails, a test fails although its letter was
handed to the mail client. -/
theorem settings_store_fails_a_dispatch :
    let down : Failure := ⟨"RuntimeError", "down"⟩
    let unread : World :=
      { World.shop with
        faults := fun c => if c = .settings then some down else none }
    let unlogged : World :=
      { World.shop with
        faults := fun c => if c = .log then some down else none }
    let test := unlogged.course (sendTest "mail-1" "ana@example.com") {}
    (unread.run (dispatch "invoice_ready" .empty {}) {}).1 = .error down ∧
      test.result = .error down ∧ test.calls.length = 1 :=
  ⟨rfl, by decide +kernel, by decide +kernel⟩

/-- A test comes too late in a world if it finds all that it needs and its
sample would be due after the last year of the calendar. -/
def World.TestIsTooLate (w : World) (templateId : String) : Prop :=
  w.templateById? templateId ≠ none ∧ w.settings? ≠ none ∧
    w.now.addDays? Sample.daysUntilDue = none

/-- With the service's own collaborators, a test fails only by coming too
late. -/
theorem World.testFails_own_iff (w : World) (templateId : String)
    (f : Failure) :
    { w with faults := fun _ => none : World }.TestFails templateId f ↔
      w.TestIsTooLate templateId ∧ f = TestSend.outOfRange := by
  have hlate : Sample.context? w.now = none ↔
      w.now.addDays? Sample.daysUntilDue = none :=
    Option.map_eq_none_iff
  constructor
  · intro h
    cases h with
    | template hfault => cases hfault
    | settings _ _ hfault => cases hfault
    | sample _ hfound hsample =>
        exact ⟨⟨hfound.1, hfound.2, hlate.mp hsample⟩, rfl⟩
    | log _ _ _ hfault => cases hfault
  · rintro ⟨⟨htemplate, hset, hdue⟩, rfl⟩
    exact .sample ⟨rfl, rfl⟩ ⟨htemplate, hset⟩ (hlate.mpr hdue)

/-- **Own collaborators.**  With its own stores and clients the service lets no
failure of the database, the providers or the hook through.  A dispatch, a
status report and a look at the log always come to a value, and so does a test
unless it comes too late; then it fails because its sample has no due date. -/
theorem own_collaborators_let_nothing_through (w : World) (s : State) :
    let own : World := { w with faults := fun _ => none }
    (∀ (trigger : String) (data : NoticeData) (options : SendOptions),
      ∃ dispatched,
        (own.run (dispatch trigger data options) s).1 = .ok dispatched) ∧
    (∀ templateId recipient : String,
      ((∃ outcome,
        (own.run (sendTest templateId recipient) s).1 = .ok outcome) ↔
        ¬ w.TestIsTooLate templateId) ∧
      ∀ f, (own.run (sendTest templateId recipient) s).1 = .error f ↔
        w.TestIsTooLate templateId ∧ f = TestSend.outOfRange) ∧
    (∃ report,
      (own.run (status own.email.isConfigured own.sms.isConfigured) s).1 =
        .ok report) ∧
    ∀ limit, ∃ entries, (own.run (recentLog limit) s).1 = .ok entries := by
  intro own
  refine ⟨fun trigger data options =>
    own.result_dispatch_of_none trigger data options rfl s,
    fun templateId recipient => ?_, ⟨_, rfl⟩, fun limit => ⟨_, rfl⟩⟩
  have hfails : ∀ f, (own.run (sendTest templateId recipient) s).1 = .error f ↔
      w.TestIsTooLate templateId ∧ f = TestSend.outOfRange := fun f =>
    (own.result_sendTest_eq_error_iff templateId recipient s f).trans
      (w.testFails_own_iff templateId f)
  refine ⟨?_, hfails⟩
  rw [exists_eq_ok_iff]
  constructor
  · exact fun h hlate => h _ ((hfails _).mpr ⟨hlate, rfl⟩)
  · exact fun hlate f hfailed => hlate ((hfails f).mp hfailed).1

/-- Two days before the end of the last year, a test of the shop's mail
fails. -/
theorem test_at_the_end_of_the_calendar_fails :
    let w : World :=
      { World.shop with now := ⟨Timestamp.lastSecond - 172799, 0, some 0⟩ }
    w.now.text = "9999-12-30T00:00:00Z".toList ∧
      (w.run (sendTest "mail-1" "ana@example.com") {}).1 =
        .error TestSend.outOfRange :=
  ⟨by decide, rfl⟩

end Notices
