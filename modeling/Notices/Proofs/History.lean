import Notices.Proofs.Audit
import Notices.Proofs.Reason
import Notices.Service.Report

/-!
# The log over a history

A history is a list of operations of the service, each performed in a
world of its own: between two operations the store, the accounts and the
providers may become others.  The log only grows, and each new document
is consistent in itself.

* `Consistent` says how the fields of a document have to fit together.
* `State.Grows` says that one state has the log of another with
  consistent documents behind it.
* `World.grows_perform` says that an operation makes the log grow, and
  `log_grows_consistently` that a history does.
-/

namespace Notices

/-! ## Consistent documents -/

/-- The fields of a document fit together: it is the document of a letter
that was sent or failed, the time of sending and the reason of a failure
are there if they should be, only a text message has no subject, and a mail
that was sent has an id. -/
structure Consistent (doc : Fields) : Prop where
  status : doc.get? "status" = some (.string "sent") ∨
    doc.get? "status" = some (.string "failed")
  sent : doc.get? "status" = some (.string "sent") →
    (∃ t, doc.get? "created_at" = some (.time t) ∧
      doc.get? "sent_at" = some (.time t)) ∧
      doc.get? "error_message" = some .null
  failed : doc.get? "status" = some (.string "failed") →
    doc.get? "sent_at" = some .null ∧ doc.get? "external_id" = some .null ∧
      ∃ reason, reason ≠ "" ∧ doc.get? "error_message" = some (.string reason)
  subject : doc.get? "subject" = some .null ↔
    doc.get? "type" = some (.string "sms")
  mailed : doc.get? "type" = some (.string "email") →
    doc.get? "status" = some (.string "sent") →
    ∃ id, doc.get? "external_id" = some (.string id)

/-- Only a text message has no subject, and its document is that of the SMS
channel. -/
theorem subject_eq_null_iff (l : Letter) :
    Record.ofOption l.subject = .null ↔
      Value.string l.channel.word = .string "sms" := by
  cases l with
  | email mail =>
      simp [Letter.subject, Letter.channel, Record.ofOption, Channel.word]
  | sms recipient body =>
      simp [Letter.subject, Letter.channel, Record.ofOption, Channel.word]

/-- The document of a letter is consistent if that became of the letter
what can become of one. -/
theorem Answered.consistent {l : Letter} {outcome : Outcome}
    (h : Answered l.channel outcome) (templateId : String) (links : Links)
    (id : String) (now : Timestamp) :
    Consistent
      ((l.attempt templateId links outcome).stamp id now).toFields := by
  let doc := ((l.attempt templateId links outcome).stamp id now).toFields
  have hrecords : Records doc l templateId outcome links.named :=
    records_stamp ..
  have hcreated : doc.get? "created_at" = some (.time now) := rfl
  have hsubject : doc.get? "subject" = some .null ↔
      doc.get? "type" = some (.string "sms") := by
    rw [hrecords.subject, hrecords.channel, Option.some.injEq,
      Option.some.injEq]
    exact subject_eq_null_iff l
  cases h with
  | delivered hid =>
      have hstatus : doc.get? "status" = some (.string "sent") :=
        hrecords.status
      refine ⟨Or.inl hstatus, fun _ => ⟨⟨now, hcreated, rfl⟩, hrecords.error⟩,
        ?_, hsubject, ?_⟩
      · intro hfailed
        have hsame := hstatus.symm.trans hfailed
        simp at hsame
      · intro htype _
        have hword : l.channel.word = "email" := by
          simpa using hrecords.channel.symm.trans htype
        have hchannel : l.channel = .email := by
          have hfound :=
            Channel.ofWord?_eq_some_iff.mpr
              (rfl : l.channel.word = l.channel.word)
          rw [hword] at hfound
          exact (Option.some.inj hfound).symm
        obtain ⟨given, rfl⟩ := Option.ne_none_iff_exists'.mp (hid hchannel)
        exact ⟨given, hrecords.externalId⟩
  | failed hcause =>
      have hstatus : doc.get? "status" = some (.string "failed") :=
        hrecords.status
      have hreason := SendError.message_ne_empty hcause
      have hnotSent : doc.get? "status" ≠ some (.string "sent") := by
        simp [hstatus]
      refine ⟨Or.inr hstatus, fun hsent => absurd hsent hnotSent, ?_, hsubject,
        fun _ hsent => absurd hsent hnotSent⟩
      intro _
      exact ⟨rfl, hrecords.externalId, _, hreason, hrecords.error⟩

/-! ## Growing logs -/

/-- A state has the log of another one, and behind it consistent documents. -/
def State.Grows (s t : State) : Prop :=
  ∃ docs, t.log = s.log ++ docs ∧ ∀ doc ∈ docs, Consistent doc

namespace State.Grows

variable {s t u : State}

/-- A log that stays as it is grows by nothing. -/
theorem of_eq (h : t.log = s.log) : s.Grows t :=
  ⟨[], by rw [h, List.append_nil], nofun⟩

/-- A log that grows twice has grown. -/
theorem trans (hst : s.Grows t) (htu : t.Grows u) : s.Grows u := by
  obtain ⟨docs, hdocs, hall⟩ := hst
  obtain ⟨more, hmore, hmoreall⟩ := htu
  refine ⟨docs ++ more, by rw [hmore, hdocs, List.append_assoc], ?_⟩
  intro doc hdoc
  rcases List.mem_append.mp hdoc with h | h
  · exact hall doc h
  · exact hmoreall doc h

end State.Grows

namespace World

section Growing

variable {w : World}

/-- A delivery makes the log grow, by one document at most. -/
theorem NamesFailures.grows_deliver (hnames : w.NamesFailures) (l : Letter)
    (templateId : String) (links : Except Failure Links) (s : State) :
    s.Grows (w.course (l.deliver templateId links) s).after := by
  cases links with
  | error f =>
      rw [course_deliver_unlinked]
      exact .of_eq (w.log_hand l s)
  | ok links =>
      let attempt :=
        l.attempt templateId links (Notice.outcomeOf (w.hand l s).1)
      have hanswered := hnames.answered_hand l s
      rw [course_deliver]
      rcases w.log_answer (w.hand l s).2 (.record attempt) with hlog |
        ⟨other, id, hother, hlog⟩
      · exact .of_eq (hlog.trans (w.log_hand l s))
      · obtain rfl := Request.record.inj hother
        refine ⟨_, by rw [hlog, log_hand], ?_⟩
        intro doc hdoc
        obtain rfl := List.mem_singleton.mp hdoc
        exact hanswered.consistent templateId links id w.now

/-- A branch makes the log grow. -/
theorem NamesFailures.grows_branchOn (hnames : w.NamesFailures)
    (channel : Channel) (trigger : String) (context : Fields)
    (settings : Settings) (options : SendOptions) (s : State) :
    s.Grows (w.course
      (Dispatch.branchOn channel trigger context settings options)
        s).after := by
  rcases w.branchOn_quiet_or_delivers channel trigger context settings
    options s with
    ⟨-, hafter⟩ | ⟨template, recipient, -, -, -, hafter⟩
  · exact .of_eq (by rw [hafter])
  · rw [hafter]
    exact hnames.grows_deliver _ _ _ s

/-- A dispatch makes the log grow. -/
theorem NamesFailures.grows_dispatch (hnames : w.NamesFailures)
    (trigger : String) (data : NoticeData) (options : SendOptions) (s : State) :
    s.Grows (w.course (dispatch trigger data options) s).after := by
  rcases w.dispatch_quiet_or_branches trigger data options s with
    ⟨-, hafter⟩ | ⟨settings, start, email, sms, -, hstart, -, -, -, -, hafter⟩
  · exact .of_eq (by rw [hafter])
  · have hfirst :=
      hnames.grows_branchOn .email trigger data.context settings options start
    have hsecond :=
      hnames.grows_branchOn .sms trigger data.context settings options
      (w.course (Dispatch.branchOn .email trigger data.context settings options)
        start).after
    rw [hafter]
    exact (State.Grows.of_eq hstart).trans (hfirst.trans hsecond)

/-- A test makes the log grow. -/
theorem NamesFailures.grows_sendTest (hnames : w.NamesFailures)
    (templateId recipient : String) (s : State) :
    s.Grows (w.course (sendTest templateId recipient) s).after := by
  rcases w.sendTest_quiet_or_delivers templateId recipient s with
    ⟨-, hafter⟩ | ⟨template, settings, data, -, -, -, -, hafter⟩
  · exact .of_eq (by rw [hafter])
  · rw [hafter]
    exact hnames.grows_deliver _ _ _ s

end Growing

end World

/-! ## Histories -/

/-- What the service is asked to do. -/
inductive Operation where
  | dispatch (trigger : String) (data : NoticeData) (options : SendOptions)
  | sendTest (templateId recipient : String)
  | status
  | recentLog (limit : Nat)

namespace World

/-- The state behind an operation in a world. -/
def perform (w : World) (s : State) : Operation → State
  | .dispatch trigger data options =>
      (w.run (dispatch trigger data options) s).2
  | .sendTest templateId recipient =>
      (w.run (sendTest templateId recipient) s).2
  | .status => (w.run (status w.email.isConfigured w.sms.isConfigured) s).2
  | .recentLog limit => (w.run (recentLog limit) s).2

/-- An operation makes the log grow, whether it comes to a value or fails. -/
theorem NamesFailures.grows_perform {w : World} (hnames : w.NamesFailures)
    (s : State) (operation : Operation) : s.Grows (w.perform s operation) := by
  cases operation with
  | dispatch trigger data options =>
      exact hnames.grows_dispatch trigger data options s
  | sendTest templateId recipient =>
      exact hnames.grows_sendTest templateId recipient s
  | status =>
      have hcourse :
          (w.course (status w.email.isConfigured w.sms.isConfigured) s).after =
            s := by
        unfold status
        rw [course_bind, course_settings]
        cases w.faults .settings <;> rfl
      exact .of_eq (congrArg State.log hcourse)
  | recentLog limit => exact .of_eq rfl

end World

/-- The state behind a history. -/
def State.afterAll (s : State) (history : List (World × Operation)) : State :=
  history.foldl (fun s step => step.1.perform s step.2) s

/-- A history makes the log grow. -/
theorem State.grows_afterAll (history : List (World × Operation))
    (hnames : ∀ step ∈ history, step.1.NamesFailures) (s : State) :
    s.Grows (s.afterAll history) := by
  induction history generalizing s with
  | nil => exact .of_eq rfl
  | cons step history ih =>
      have hstep := (hnames step (List.mem_cons_self ..)).grows_perform s step.2
      have hrest :=
        ih (fun other hother => hnames other (List.mem_cons_of_mem step hother))
        (step.1.perform s step.2)
      exact hstep.trans hrest

/-- **The log over a history.**  However a history goes, the log at an
earlier time is the front of the log at a later one, and each document
behind the first log is consistent.  It is assumed of what is outside that
its failures have kinds. -/
theorem log_grows_consistently (s : State)
    (earlier later : List (World × Operation))
    (hnames : ∀ step ∈ earlier ++ later, step.1.NamesFailures) :
    (s.afterAll earlier).log <+: (s.afterAll (earlier ++ later)).log ∧
      ∀ doc ∈ (s.afterAll (earlier ++ later)).log.drop s.log.length,
        Consistent doc := by
  constructor
  · have hlater := State.grows_afterAll later
      (fun step hstep => hnames step (List.mem_append_right earlier hstep))
      (s.afterAll earlier)
    obtain ⟨docs, hdocs, -⟩ := hlater
    have hsplit : s.afterAll (earlier ++ later) =
        (s.afterAll earlier).afterAll later :=
      List.foldl_append
    exact ⟨docs, by rw [hsplit, hdocs]⟩
  · obtain ⟨docs, hdocs, hall⟩ :=
      State.grows_afterAll (earlier ++ later) hnames s
    rw [hdocs, List.drop_left]
    exact hall

/-- The shop names its failures, and so it does while its mail server is down.
A test before and one behind the breakdown, with a look at the log, leave a log
of consistent documents. -/
theorem log_of_two_tests_is_consistent :
    let down : World :=
      { World.shop with
        mailServer := fun _ _ => .raised ⟨"SMTPServerDisconnected", ""⟩ }
    let earlier := [(World.shop, Operation.sendTest "mail-1" "ana@example.com")]
    let later :=
      [(down, Operation.sendTest "mail-1" "ana@example.com"),
        (down, .recentLog 10)]
    (∀ step ∈ earlier ++ later, step.1.NamesFailures) ∧
      ∀ doc ∈ (State.afterAll {} (earlier ++ later)).log, Consistent doc := by
  intro down earlier later
  have hshop : World.shop.NamesFailures := by
    constructor
    · intro c f hfault
      cases hfault
    · intro n submission f hraised
      cases hraised
    · intro n request f hraised
      cases hraised
  have hdown : down.NamesFailures := by
    refine ⟨hshop.faults, ?_, hshop.smsProvider⟩
    intro n submission f hraised
    obtain rfl := Email.Reply.raised.inj hraised
    decide
  have hnames : ∀ step ∈ earlier ++ later, step.1.NamesFailures := by
    intro step hstep
    obtain rfl | rfl |
      rfl : step = (World.shop, .sendTest "mail-1" "ana@example.com") ∨
        step = (down, .sendTest "mail-1" "ana@example.com") ∨
          step = (down, .recentLog 10) := by
      simpa [earlier, later] using hstep
    · exact hshop
    · exact hdown
    · exact hdown
  obtain ⟨-, hall⟩ := log_grows_consistently {} earlier later hnames
  have hnew : ({} : State).log.length = 0 := rfl
  rw [hnew, List.drop_zero] at hall
  exact ⟨hnames, hall⟩

end Notices
