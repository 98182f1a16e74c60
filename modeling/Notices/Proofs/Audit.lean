import Mathlib.Algebra.Group.Nat.Defs
import Mathlib.Data.List.Forall2
import Notices.Proofs.Branch

/-!
# The log and the calls of clients

As long as it can be written, the log has a document for each call of a
client and no other.  This is said of a delivery first, and then of all
that is made of deliveries.

* `Records` says what a document has to hold of a letter and of what became of
  it.
* `Course.Keeps` says that a course writes one document for each of its calls,
  behind the earlier ones.
* `log_records_calls_with_writable_links` says that dispatches and tests do, as
  long as the business records can be written.
-/

namespace Notices

/-! ## What a document holds -/

/-- A document holds what was sent, by which template, what became of it, and
the links by their names. -/
structure Records (doc : Fields) (l : Letter) (templateId : String)
    (outcome : Outcome) (link : String → Option String) : Prop where
  channel : doc.get? "type" = some (.string l.channel.word)
  recipient : doc.get? "recipient" = some (.string l.recipient)
  body : doc.get? "body" = some (.string l.body)
  subject : doc.get? "subject" = some (Record.ofOption l.subject)
  template : doc.get? "template_id" = some (.string templateId)
  status : doc.get? "status" =
    some (.string (if outcome.isDelivered then "sent" else "failed"))
  error : doc.get? "error_message" = some (Record.ofOption outcome.error)
  externalId : doc.get? "external_id" = some (Record.ofOption outcome.messageId)
  links : ∀ name ∈ Links.names,
    doc.get? name = some (Record.ofOption (link name))

/-- The four links by their names. -/
def Links.named (links : Links) (name : String) : Option String :=
  if name = "customer_id" then links.customer
  else if name = "invoice_id" then links.invoice
  else if name = "shipment_id" then links.shipment
  else if name = "release_id" then links.release
  else none

/-- The entry of an attempt holds all of it. -/
theorem records_stamp (l : Letter) (templateId : String) (links : Links)
    (outcome : Outcome) (id : String) (now : Timestamp) :
    Records ((l.attempt templateId links outcome).stamp id now).toFields l
      templateId outcome
      links.named where
  channel := rfl
  recipient := rfl
  body := rfl
  subject := rfl
  template := rfl
  status := by cases outcome <;> rfl
  error := rfl
  externalId := rfl
  links := by
    intro name hname
    obtain rfl | rfl | rfl | rfl : name = "customer_id" ∨ name = "invoice_id" ∨
        name = "shipment_id" ∨ name = "release_id" := by
          simpa [Links.names] using hname
    all_goals rfl

/-- Only the links count that have a name. -/
theorem Records.congr_links {doc : Fields} {l : Letter} {templateId : String}
    {outcome : Outcome} {link other : String → Option String}
    (h : Records doc l templateId outcome link)
    (heq : ∀ name ∈ Links.names, link name = other name) :
    Records doc l templateId outcome other :=
  { h with links := fun name hname => heq name hname ▸ h.links name hname }

/-- The links of data are the texts of its fields. -/
theorem Links.named_spelled (context : Fields) :
    ∀ name ∈ Links.names,
      (Links.spelled context).named name = Links.textOf context name := by
  intro name hname
  obtain rfl | rfl | rfl | rfl : name = "customer_id" ∨ name = "invoice_id" ∨
      name = "shipment_id" ∨ name = "release_id" := by
        simpa [Links.names] using hname
  all_goals rfl

/-- Without links, no name has one. -/
theorem Links.named_none :
    ∀ name ∈ Links.names, Links.named {} name = none := by
  intro name _
  simp [Links.named]

/-! ## Courses that keep the log -/

namespace Course

variable {α β : Type}

/-- A course keeps the log if it writes one document for each of its calls, in
their order, behind those that were there.  The relation says what a document
has to do with its call. -/
def Keeps (c : Course α) (s : State) (related : ClientCall → Fields → Prop) :
    Prop :=
  ∃ docs, c.after.log = s.log ++ docs ∧ List.Forall₂ related c.calls docs

variable {c : Course α} {s : State} {related other : ClientCall → Fields → Prop}

/-- A course without calls keeps the log by leaving it as it is. -/
theorem keeps_of_quiet (hcalls : c.calls = []) (hlog : c.after.log = s.log) :
    c.Keeps s related := by
  refine ⟨[], by rw [hlog, List.append_nil], ?_⟩
  rw [hcalls]
  exact .nil

/-- A course that consists of two others keeps the log if they do. -/
theorem keeps_of_append {first second : Course β} {start : State}
    (hstart : start.log = s.log) (hfirst : first.Keeps start related)
    (hsecond : second.Keeps first.after related)
    (hcalls : c.calls = first.calls ++ second.calls)
    (hafter : c.after = second.after) :
    c.Keeps s related := by
  obtain ⟨docs, hlog, hdocs⟩ := hfirst
  obtain ⟨more, hgrown, hmore⟩ := hsecond
  refine ⟨docs ++ more, ?_, ?_⟩
  · rw [hafter, hgrown, hlog, hstart, List.append_assoc]
  · rw [hcalls]
    exact List.rel_append hdocs hmore

/-- A course keeps the log in every sense that is implied by one in which it
does. -/
theorem Keeps.imp (h : c.Keeps s related)
    (himp : ∀ call doc, related call doc → other call doc) :
    c.Keeps s other := by
  obtain ⟨docs, hlog, hdocs⟩ := h
  exact ⟨docs, hlog, hdocs.imp himp⟩

end Course

/-! ## Deliveries, dispatches and tests -/

namespace World

/-- The log of a world can be written at any time. -/
structure KeepsLog (w : World) : Prop where
  works : w.faults .log = none
  reachable : ∀ n, w.outage.writeLog n = false

section Keeping

variable {w : World}

/-- A log that can be written takes the entry of an attempt. -/
theorem KeepsLog.answer_record (hlog : w.KeepsLog) (s : State)
    (attempt : Attempt) :
    (w.answer s (.record attempt)).1 = .ok true ∧
      (w.answer s (.record attempt)).2.log =
        s.log ++ [(attempt.stamp (w.logIds s.writes) w.now).toFields] := by
  have hfault : (collaborator? (.record attempt)).bind w.faults = none :=
    hlog.works
  unfold answer
  rw [hfault]
  simp [serve, record, hlog.reachable s.writes, State.put]

/-- A delivery comes to what the client answered, and writes one document,
which holds the letter. -/
theorem KeepsLog.deliver (hlog : w.KeepsLog) (l : Letter) (templateId : String)
    (links : Links) (s : State) :
    let delivery := w.course (l.deliver templateId (.ok links)) s
    let outcome := Notice.outcomeOf (w.hand l s).1
    delivery.result = .ok outcome ∧ delivery.calls = [⟨l, (w.hand l s).1⟩] ∧
      ∃ doc, delivery.after.log = s.log ++ [doc] ∧
        Records doc l templateId outcome links.named := by
  intro delivery outcome
  let attempt := l.attempt templateId links outcome
  obtain ⟨hwritten, hgrown⟩ := hlog.answer_record (w.hand l s).2 attempt
  have hcourse := w.course_deliver l templateId links s
  have hresult : delivery.result = .ok outcome := by
    simp only [delivery, hcourse]
    rw [hwritten]
    rfl
  have hafter : delivery.after.log =
      s.log ++
        [(attempt.stamp (w.logIds (w.hand l s).2.writes) w.now).toFields] := by
    simp only [delivery, hcourse]
    rw [hgrown, log_hand]
  exact ⟨hresult, w.calls_deliver l templateId (.ok links) s, _, hafter,
    records_stamp ..⟩

/-- What the log says of a call on a branch: it is the letter of the template of
the channel, whose answer is what the branch comes to. -/
def BranchRecords (w : World) (channel : Channel) (trigger : String)
    (context : Fields) (settings : Settings) (result : Option Outcome)
    (call : ClientCall) (doc : Fields) : Prop :=
  ∃ template recipient, w.template? channel trigger = some template ∧
    call.letter = template.letter channel id settings context recipient ∧
    result = some (Notice.outcomeOf call.answer) ∧
    Records doc call.letter template.id (Notice.outcomeOf call.answer)
      (Links.textOf context)

/-- A branch keeps the log if the business records of the data can be
written. -/
theorem KeepsLog.branchOn (hlog : w.KeepsLog) {channel : Channel}
    {trigger : String} {context : Fields} {settings : Settings}
    {options : SendOptions} {s : State} {result : Option Outcome}
    (hlinks : Links.AreWritable context)
    (hresult :
      (w.course (Dispatch.branchOn channel trigger context settings options)
        s).result = .ok result) :
    (w.course (Dispatch.branchOn channel trigger context settings options)
      s).Keeps s
      (w.BranchRecords channel trigger context settings result) := by
  rcases w.branchOn_quiet_or_delivers channel trigger context settings
    options s with
    ⟨hquiet, hafter⟩ | ⟨template, recipient, htemplate, hsent, hcalls, hafter⟩
  · exact Course.keeps_of_quiet hquiet (by rw [hafter])
  · rw [Links.ofContext_of_areWritable hlinks] at hsent hcalls hafter
    obtain ⟨hanswer, hone, doc, hgrown, hrecords⟩ := hlog.deliver
      (template.letter channel id settings context recipient) template.id
        (.spelled context) s
    rw [hresult, hanswer] at hsent
    refine ⟨[doc], by rw [hafter, hgrown], ?_⟩
    rw [hcalls, hone]
    refine .cons
      ⟨template, recipient, htemplate, rfl, Except.ok.inj hsent, ?_⟩ .nil
    exact hrecords.congr_links (Links.named_spelled context)

/-- A branch writes nothing into the log if the business records of the data
cannot be written.  If it has called the client, it comes to that failure,
whatever the client has answered. -/
theorem branchOn_unlinked (w : World) {channel : Channel} {trigger : String}
    {context : Fields} {settings : Settings} {options : SendOptions} {s : State}
    {result : Option Outcome} (hlinks : ¬ Links.AreWritable context)
    (hresult :
      (w.course (Dispatch.branchOn channel trigger context settings options)
        s).result = .ok result) :
    let branch :=
      w.course (Dispatch.branchOn channel trigger context settings options) s
    branch.after.log = s.log ∧
      ∀ call ∈ branch.calls, call.letter.channel = channel ∧
      result = some (.failed (.raised Value.tooLong)) := by
  intro branch
  rcases w.branchOn_quiet_or_delivers channel trigger context settings
    options s with
    ⟨hquiet, hafter⟩ | ⟨template, recipient, -, hsent, hcalls, hafter⟩
  · refine ⟨by simp only [branch, hafter], fun call hcall => ?_⟩
    simp only [branch, hquiet] at hcall
    cases hcall
  · rw [Links.ofContext_of_not_areWritable hlinks] at hsent hcalls hafter
    rw [hresult, course_deliver_unlinked] at hsent
    rw [calls_deliver] at hcalls
    rw [course_deliver_unlinked] at hafter
    constructor
    · simp only [branch, hafter]
      exact w.log_hand _ s
    · intro call hcall
      simp only [branch, hcalls] at hcall
      obtain rfl := List.mem_singleton.mp hcall
      exact ⟨Template.channel_letter .., Except.ok.inj hsent⟩

/-- What the log says of a call of a dispatch: it is the letter of the template
of its channel, filled in with the data, and its answer is what the dispatch
comes to on that channel. -/
def DispatchRecords (w : World) (trigger : String) (data : NoticeData)
    (result : Except Failure Dispatched) (call : ClientCall) (doc : Fields) :
    Prop :=
  ∃ dispatched settings template recipient, result = .ok dispatched ∧
    w.settings? = some settings ∧
    w.template? call.letter.channel trigger = some template ∧
    call.letter =
      template.letter call.letter.channel id settings data.context recipient ∧
    dispatched.on call.letter.channel = some (Notice.outcomeOf call.answer) ∧
    Records doc call.letter template.id (Notice.outcomeOf call.answer)
      (Links.textOf data.context)

/-- What the log says of a call on a branch is what it says of a
call of the dispatch. -/
theorem BranchRecords.dispatch {trigger : String} {data : NoticeData}
    {settings : Settings} {dispatched : Dispatched} {channel : Channel}
    {call : ClientCall} {doc : Fields}
    (h : w.BranchRecords channel trigger data.context settings
      (dispatched.on channel) call doc)
    (hset : w.settings? = some settings) :
    w.DispatchRecords trigger data (.ok dispatched) call doc := by
  obtain ⟨template, recipient, htemplate, hletter, hresult, hrecords⟩ := h
  have hchannel : call.letter.channel = channel := by
    rw [hletter]
    exact Template.channel_letter ..
  subst hchannel
  exact ⟨dispatched, settings, template, recipient, rfl, hset, htemplate,
    hletter, hresult, hrecords⟩

/-- A dispatch calls the client of a channel at most once, that of
the email channel first. -/
theorem channels_dispatch (w : World) (trigger : String) (data : NoticeData)
    (options : SendOptions) (s : State) :
    ((w.course (dispatch trigger data options) s).calls.map
      (·.letter.channel)).Sublist
      [.email, .sms] := by
  rcases w.dispatch_quiet_or_branches trigger data options s with
    ⟨hquiet, -⟩ | ⟨settings, start, email, sms, -, -, -, -, -, hcalls, -⟩
  · rw [hquiet]
    exact List.nil_sublist _
  · rw [hcalls, List.map_append]
    exact (channels_branchOn w start).append (channels_branchOn w _)

/-- A dispatch keeps the log if the business records of the data can be
written. -/
theorem KeepsLog.dispatch (hlog : w.KeepsLog) (trigger : String)
    {data : NoticeData} (hlinks : Links.AreWritable data.context)
    (options : SendOptions) (s : State) :
    let course := w.course (dispatch trigger data options) s
    course.Keeps s (w.DispatchRecords trigger data course.result) := by
  intro course
  rcases w.dispatch_quiet_or_branches trigger data options s with
    ⟨hquiet, hafter⟩ |
      ⟨settings, start, email, sms, hset, hstart, hemail, hsms, hresult, hcalls,
        hafter⟩
  · exact Course.keeps_of_quiet hquiet (by rw [hafter])
  · let dispatched : Dispatched := { email, sms }
    have hfirst := (hlog.branchOn hlinks hemail).imp fun call doc h =>
      BranchRecords.dispatch
        (show w.BranchRecords .email trigger data.context settings
        (dispatched.on .email) call doc from h) hset
    have hsecond := (hlog.branchOn hlinks hsms).imp fun call doc h =>
      BranchRecords.dispatch
        (show w.BranchRecords .sms trigger data.context settings
        (dispatched.on .sms) call doc from h) hset
    simp only [course, hresult]
    exact Course.keeps_of_append hstart hfirst hsecond hcalls hafter

/-- A dispatch whose business records cannot be written leaves the log as it is.
On each channel on which it has called the client it comes to that failure. -/
theorem dispatch_unlinked (w : World) (trigger : String) {data : NoticeData}
    (hlinks : ¬ Links.AreWritable data.context) (options : SendOptions)
    (s : State) :
    let course := w.course (dispatch trigger data options) s
    course.after.log = s.log ∧ ∀ call ∈ course.calls, ∃ dispatched,
      course.result = .ok dispatched ∧
      dispatched.on call.letter.channel =
        some (.failed (.raised Value.tooLong)) := by
  intro course
  rcases w.dispatch_quiet_or_branches trigger data options s with
    ⟨hquiet, hafter⟩ |
      ⟨settings, start, email, sms, -, hstart, hemail, hsms, hresult, hcalls,
        hafter⟩
  · refine ⟨by simp only [course, hafter], fun call hcall => ?_⟩
    simp only [course, hquiet] at hcall
    cases hcall
  · obtain ⟨hfirst, hmails⟩ := w.branchOn_unlinked hlinks hemail
    obtain ⟨hsecond, hmessages⟩ := w.branchOn_unlinked hlinks hsms
    constructor
    · simp only [course, hafter]
      rw [hsecond, hfirst, hstart]
    · intro call hcall
      refine ⟨{ email, sms }, hresult, ?_⟩
      simp only [course, hcalls] at hcall
      rcases List.mem_append.mp hcall with hmail | hmessage
      · obtain ⟨hchannel, hfailed⟩ := hmails call hmail
        rw [hchannel]
        exact hfailed
      · obtain ⟨hchannel, hfailed⟩ := hmessages call hmessage
        rw [hchannel]
        exact hfailed

/-- The sample data is found by the clock alone. -/
theorem course_sample (w : World) (s : State) :
    w.course TestSend.sample s =
      ⟨(Sample.context? w.now).elim (.error TestSend.outOfRange) .ok,
        [⟨.now, .ok w.now⟩], s⟩ := by
  unfold TestSend.sample
  rw [course_bind, course_call]
  have hanswer : w.answer s .now = (.ok w.now, s) := rfl
  rw [hanswer]
  cases h : Sample.context? w.now <;> simp [Course.ofAnswer, h]

/-- A test that finds its template, the settings and the sample data delivers a
marked letter, and any other calls no client and leaves the log as it is. -/
theorem sendTest_quiet_or_delivers (w : World) (templateId recipient : String)
    (s : State) :
    let course := w.course (sendTest templateId recipient) s
    (course.calls = [] ∧ course.after = s) ∨
      ∃ template settings data, w.templateById? templateId = some template ∧
        w.settings? = some settings ∧
        let letter :=
          template.letter template.channel (TestSend.mark ++ ·) settings
            data recipient
        let delivery := w.course (letter.deliver template.id (.ok {})) s
        course.result = delivery.result ∧ course.calls = delivery.calls ∧
          course.after = delivery.after := by
  intro course
  simp only [course]
  unfold sendTest
  rw [course_bind, course_templateById]
  cases hfault : w.faults .templateById with
  | some f => exact Or.inl ⟨rfl, rfl⟩
  | none =>
      cases htemplate : w.templateById? templateId with
      | none => exact Or.inl ⟨rfl, rfl⟩
      | some template =>
          simp only [unlessFault, Course.andThen_ok]
          rw [course_bind, course_settings]
          cases hfault : w.faults .settings with
          | some f => exact Or.inl ⟨rfl, rfl⟩
          | none =>
              cases hset : w.settings? with
              | none => exact Or.inl ⟨rfl, rfl⟩
              | some settings =>
                  simp only [unlessFault, Course.andThen_ok]
                  rw [course_bind, course_sample]
                  cases hsample : Sample.context? w.now with
                  | none => exact Or.inl ⟨rfl, rfl⟩
                  | some data =>
                      simp only [Option.elim_some, Course.andThen_ok,
                        TestSend.send_eq_deliver
                          (TestSend.fieldsAreWritable_sample hsample)]
                      refine Or.inr
                        ⟨template, settings, data, rfl, rfl, rfl, ?_, rfl⟩
                      unfold Course.calls
                      rw [List.filterMap_append, List.filterMap_append,
                        List.filterMap_append]
                      rfl

/-- What the log says of a call of a test: it is the marked letter
of the template with the id, and its answer is what the test comes
to.  A test has no links. -/
def TestRecords (w : World) (templateId recipient : String)
    (result : Except Failure Outcome) (call : ClientCall) (doc : Fields) :
    Prop :=
  ∃ template settings data, w.templateById? templateId = some template ∧
    w.settings? = some settings ∧
    call.letter =
      template.letter template.channel (TestSend.mark ++ ·) settings data
        recipient ∧
    result = .ok (Notice.outcomeOf call.answer) ∧
    Records doc call.letter template.id (Notice.outcomeOf call.answer)
      fun _ => none

/-- A test calls at most one client, and keeps the log. -/
theorem KeepsLog.sendTest (hlog : w.KeepsLog) (templateId recipient : String)
    (s : State) :
    let course := w.course (sendTest templateId recipient) s
    course.calls.length ≤ 1 ∧
      course.Keeps s (w.TestRecords templateId recipient course.result) := by
  intro course
  rcases w.sendTest_quiet_or_delivers templateId recipient s with
    ⟨hquiet, hafter⟩ |
      ⟨template, settings, data, htemplate, hset, hresult, hcalls, hafter⟩
  · refine ⟨?_, Course.keeps_of_quiet hquiet (by rw [hafter])⟩
    simp only [course]
    rw [hquiet]
    exact Nat.zero_le 1
  · let letter :=
      template.letter template.channel (TestSend.mark ++ ·) settings
        data recipient
    obtain ⟨hanswer, hone, doc, hgrown, hrecords⟩ :=
      hlog.deliver letter template.id {} s
    simp only [course, Course.Keeps]
    rw [hresult, hcalls, hafter, hanswer, hone]
    refine ⟨Nat.le_refl 1, [doc], hgrown, .cons ?_ .nil⟩
    exact ⟨template, settings, data, htemplate, hset, rfl, rfl,
      hrecords.congr_links Links.named_none⟩

end Keeping

end World

/-- **The log keeps book of the clients.**  While the log can be written,
what a dispatch or a test adds to it is one document for each call of a
client, in their order, and what was there before stays as it is.  Each
document holds the letter that was handed over, the template that it was
written by, and what became of it.  A dispatch calls each client at most
once, and a test calls at most one.  Only a dispatch whose business records
cannot be written does not keep the log, unless it calls no client: it adds
nothing, and on each channel whose client it has called it comes to a
failure, whatever the client has answered. -/
theorem log_records_calls_with_writable_links (w : World) (hlog : w.KeepsLog)
    (s : State) :
    (∀ (trigger : String) (data : NoticeData) (options : SendOptions),
      let course := w.course (dispatch trigger data options) s
      (course.calls.map (·.letter.channel)).Sublist [.email, .sms] ∧
        ((∃ docs, course.after.log = s.log ++ docs ∧
          List.Forall₂ (w.DispatchRecords trigger data course.result)
            course.calls docs) ↔
          Links.AreWritable data.context ∨ course.calls = []) ∧
        (¬ Links.AreWritable data.context →
          course.after.log = s.log ∧ ∀ call ∈ course.calls, ∃ dispatched,
            course.result = .ok dispatched ∧
            dispatched.on call.letter.channel =
              some (.failed (.raised Value.tooLong)))) ∧
    ∀ templateId recipient : String,
      let course := w.course (sendTest templateId recipient) s
      course.calls.length ≤ 1 ∧
        ∃ docs, course.after.log = s.log ++ docs ∧
          List.Forall₂ (w.TestRecords templateId recipient course.result)
            course.calls docs := by
  refine ⟨fun trigger data options => ?_,
    fun templateId recipient => hlog.sendTest templateId recipient s⟩
  intro course
  have hunlinked (hlinks : ¬ Links.AreWritable data.context) :=
    w.dispatch_unlinked trigger hlinks options s
  refine ⟨w.channels_dispatch trigger data options s, ⟨?_, ?_⟩, hunlinked⟩
  · rintro ⟨docs, hgrown, hdocs⟩
    by_cases hlinks : Links.AreWritable data.context
    · exact Or.inl hlinks
    · right
      have hsame : s.log ++ docs = s.log :=
        hgrown.symm.trans (hunlinked hlinks).1
      obtain rfl := List.append_right_eq_self.mp hsame
      exact List.forall₂_nil_right_iff.mp hdocs
  · intro h
    by_cases hlinks : Links.AreWritable data.context
    · exact hlog.dispatch trigger hlinks options s
    · exact Course.keeps_of_quiet (h.resolve_left hlinks) (hunlinked hlinks).1

/-- If the mail client of the shop raises, the mail that it was handed is in
the log all the same. -/
theorem failed_mail_is_recorded :
    let w : World := { World.shop with
      faults := fun c => if c = .email then some ⟨"TimeoutError", "timed out"⟩
        else none }
    let data : NoticeData := ⟨[("customer_email", .string "ana@example.com")]⟩
    w.KeepsLog ∧ ∃ doc,
      (w.course (dispatch "invoice_ready" data {}) {}).after.log = [doc] ∧
      doc.get? "recipient" = some (.string "ana@example.com") ∧
      doc.get? "status" = some (.string "failed") ∧
      doc.get? "error_message" = some (.string "timed out") := by
  intro w data
  let course := w.course (dispatch "invoice_ready" data {}) {}
  have hlog : w.KeepsLog := ⟨rfl, fun _ => rfl⟩
  refine ⟨hlog, ?_⟩
  have hlinks : Links.AreWritable data.context :=
    fun _ _ v hv => Value.isWritable_of_present? rfl hv
  obtain ⟨docs, hgrown, hdocs⟩ :=
    ((log_records_calls_with_writable_links w hlog {}).1 "invoice_ready" data
      {}).2.1.mpr
      (Or.inl hlinks)
  have hcalls :
      course.calls.map (fun call => (call.letter.recipient, call.answer)) =
      [("ana@example.com", .error ⟨"TimeoutError", "timed out"⟩)] := by
        decide +kernel
  obtain ⟨call, hcall, hsame⟩ := List.map_eq_singleton_iff.mp hcalls
  obtain ⟨hrecipient, hanswer⟩ := Prod.mk.inj hsame
  simp only [course] at hcall
  rw [hcall] at hdocs
  obtain ⟨doc, rest, hdoc, hrest, rfl⟩ := List.forall₂_cons_left_iff.mp hdocs
  obtain rfl := List.forall₂_nil_left_iff.mp hrest
  obtain ⟨_, _, _, _, _, _, _, _, _, hrecords⟩ := hdoc
  rw [hanswer] at hrecords
  exact ⟨doc, hgrown, by
    rw [hrecords.recipient, hrecipient], hrecords.status, hrecords.error⟩

/-- An id of five thousand digits cannot be written.  In the shop a mail goes
out with it, and nothing of that is in the log. -/
theorem mail_with_a_long_id_is_not_recorded :
    let id : Value := .int (.ofNat (10 ^ 5000))
    let data : NoticeData :=
      ⟨[("customer_email", .string "ana@example.com"), ("customer_id", id)]⟩
    let course := World.shop.course (dispatch "invoice_ready" data {}) {}
    id.isWritable = false ∧ course.calls.length = 1 ∧
      course.after.log = [] := by
  intro id data course
  have hlong : id.isWritable = false := by decide +kernel
  have hlinks : ¬ Links.AreWritable data.context := by
    intro hlinks
    have hshort := hlinks "customer_id" (by decide) id rfl
    rw [hlong] at hshort
    cases hshort
  exact ⟨hlong, by
    decide +kernel,
    (World.shop.dispatch_unlinked "invoice_ready" hlinks {} {}).1⟩

end Notices
