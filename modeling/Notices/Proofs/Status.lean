import Notices.Proofs.Escape
import Notices.Proofs.Loss

/-!
# The status report and the sending

The status report says of each channel whether its client is configured
and whether the settings switch it on.  A dispatch and the clients do not
ask for that report, but find out for themselves, and here it is said
that they agree with it.

* `World.run_status` says what is reported.
* `World.hand_of_not_configured` says that a client that is not configured fails
  and changes nothing, and `World.trafficOn_run` and
  `World.answer_of_mem_callsOn` say of all programs what follows from that.
* `Course.Books` says that a course writes one document for each of its
  calls, whichever writes fail.
* `World.Spares` and `World.TurnsAway` say what becomes of the letters of a
  channel that is not configured.
* `status_agrees_with_sending` is the statement about the report.
-/

namespace Notices

/-! ## The report -/

/-- What is reported on a channel whose client is not configured. -/
def Channel.notConfigured : Channel → SendError
  | .email => .emailNotConfigured
  | .sms => .smsNotConfigured

/-- The state of a channel in a report. -/
def StatusReport.on (r : StatusReport) : Channel → ChannelStatus
  | .email => r.email
  | .sms => r.sms

namespace World

variable {α β : Type} {w : World} {channel : Channel}

/-- Whether the client of a channel is configured. -/
def isConfigured (w : World) : Channel → Bool
  | .email => w.email.isConfigured
  | .sms => w.sms.isConfigured

/-- The report says of a channel whether its client is configured, and whether
there are settings that switch it on. -/
theorem run_status (hsettings : w.faults .settings = none) (s : State) :
    ∃ report, (w.run (status w.email.isConfigured w.sms.isConfigured) s).1 =
      .ok report ∧
      ∀ channel, report.on channel =
        ⟨w.isConfigured channel,
          (w.settings?.map (Settings.enables · channel)).getD false⟩ := by
  let report : StatusReport :=
    { email :=
      ⟨w.email.isConfigured, (w.settings?.map Settings.emailEnabled).getD false⟩
      sms := ⟨w.sms.isConfigured,
        (w.settings?.map Settings.smsEnabled).getD false⟩ }
  have hreport :
      (w.course (status w.email.isConfigured w.sms.isConfigured) s).result =
        .ok report := by
    unfold status
    rw [course_bind, course_settings, hsettings]
    rfl
  refine ⟨report, hreport, fun channel => ?_⟩
  cases channel <;> rfl

/-! ## Channels that are switched off or on -/

section Switch

variable {trigger : String} {data : NoticeData} {options : SendOptions}

/-- A dispatch calls no client of a channel that no settings switch on. -/
theorem callsOn_dispatch_of_off (hsettings : w.faults .settings = none)
    (htemplate : w.faults .template = none)
    (hoff : ∀ settings, w.settings? = some settings →
      settings.enables channel = false)
    (s : State) :
    (w.course (dispatch trigger data options) s).callsOn channel = [] := by
  rcases dispatch_sends_or_stops hsettings htemplate s with
    ⟨hopen, -⟩ | ⟨-, -, hcalls, -⟩ | ⟨-, -, hcalls, -⟩
  · obtain ⟨settings, hset, -, hon⟩ := hopen .channel
    rw [hoff settings (settings?_eq_some_iff.mpr hset)] at hon
    cases hon
  · exact hcalls
  · exact hcalls

/-- A dispatch comes to an outcome on a channel that is switched on, unless
the channel is excluded. -/
theorem on_dispatch_of_on (trigger : String) (data : NoticeData)
    {settings : Settings} (hsettings : w.faults .settings = none)
    (hset : w.settings? = some settings) (hon : settings.enables channel = true)
    (hexcluded : channel.isExcluded options = false) (s : State) :
    ∃ dispatched outcome,
      (w.course (dispatch trigger data options) s).result = .ok dispatched ∧
      dispatched.on channel = some outcome := by
  cases hpermits : settings.permits trigger with
  | false =>
      rw [course_dispatch_forbidden trigger data options hsettings
        hset hpermits]
      exact ⟨_, .failed .triggerDisabled, rfl, by cases channel <;> rfl⟩
  | true =>
      obtain ⟨before, dispatched, hresult, hbranch, -⟩ :=
        dispatch_on_of_permitted trigger data options hsettings hset
          hpermits s channel
      rw [course_branchOn,
        if_pos (Gate.isWanted_eq_true_iff.mpr ⟨hexcluded, hon⟩)] at hbranch
      exact ⟨dispatched, _, hresult, (Except.ok.inj hbranch).symm⟩

end Switch

/-! ## Clients that are not configured -/

/-- An account that is not configured does not send a mail, and nothing
changes. -/
theorem sendEmail_of_not_configured (h : w.email.isConfigured = false)
    (mail : Email.Mail) (s : State) :
    w.sendEmail mail s = (.failed .emailNotConfigured, s) := by
  simp [sendEmail, Email.Account.send, Email.Account.usesNumber, h]

/-- An account that is not configured does not send a text message, and nothing
changes. -/
theorem sendSms_of_not_configured (h : w.sms.isConfigured = false)
    (recipient body : String) (s : State) :
    w.sendSms recipient body s = (.ok (.failed .smsNotConfigured), s) := by
  simp [sendSms, Sms.Account.send, h]

/-- A client that is not configured fails for that reason, and nothing
changes. -/
theorem hand_of_not_configured {l : Letter}
    (hclient : w.faults l.channel.client = none)
    (h : w.isConfigured l.channel = false) (s : State) :
    w.hand l s = (.ok (.failed l.channel.notConfigured), s) := by
  cases l with
  | email mail =>
      have hclient : w.faults .email = none := hclient
      simp only [hand, answer, collaborator?, Option.bind_some, hclient, serve]
      rw [sendEmail_of_not_configured h]
      rfl
  | sms recipient body =>
      have hclient : w.faults .sms = none := hclient
      simp only [hand, answer, collaborator?, Option.bind_some, hclient, serve]
      exact sendSms_of_not_configured h recipient body s

section NotConfigured

variable (hclient : w.faults channel.client = none)
    (h : w.isConfigured channel = false)

include hclient h

/-- No answer is had from the provider of a channel that is not configured. -/
theorem trafficOn_answer (r : Request) (s : State) :
    (w.answer s r).2.trafficOn channel = s.trafficOn channel := by
  -- a letter of the channel changes nothing, and a letter of the other
  -- one is not seen on it
  have hhand : ∀ l : Letter,
      (w.hand l s).2.trafficOn channel = s.trafficOn channel := by
    intro l
    by_cases hchannel : l.channel = channel
    · subst hchannel
      rw [hand_of_not_configured hclient h]
    · exact (w.alikeOn_hand hchannel w.outage s).traffic.symm
  cases r with
  | email mail => exact hhand (.email mail)
  | sms recipient body => exact hhand (.sms recipient body)
  | record attempt =>
      unfold answer
      split
      · rfl
      · simp only [serve, record_after]
        simp [State.trafficOn, filter_map_logged]
  | unknownTrigger trigger =>
      simp only [answer, collaborator?, Option.bind_none, serve, reportUnknown]
      cases w.hook <;> simp [Event.isOn]
  | settings | template _ _ | templateById _ | recent _ | now =>
      unfold answer
      split <;> rfl

/-- No run uses the provider of a channel that is not configured. -/
theorem trafficOn_run (p : Program α) (s : State) :
    (w.run p s).2.trafficOn channel = s.trafficOn channel := by
  induction p generalizing s with
  | done a => rfl
  | failed f => rfl
  | ask r next ih => exact (ih _ _).trans (trafficOn_answer hclient h r s)

/-- All letters of a channel that is not configured fail for that reason. -/
theorem answer_of_mem_callsOn (p : Program α) (s : State) :
    ∀ call ∈ (w.course p s).callsOn channel,
      call.answer = .ok (.failed channel.notConfigured) := by
  have hexchanges : ∀ e ∈ w.exchanges p s, ∀ call, e.clientCall? = some call →
      call.letter.channel = channel →
        call.answer = .ok (.failed channel.notConfigured) := by
    induction p generalizing s with
    | done a =>
        intro e he
        cases he
    | failed f =>
        intro e he
        cases he
    | ask r next ih =>
        intro e he call hcall hchannel
        rcases List.mem_cons.mp he with rfl | hrest
        · have hanswer : call.answer = (w.hand call.letter s).1 := by
            cases r with
            | email mail | sms recipient body =>
                obtain rfl := Option.some.inj hcall
                rfl
            | settings | template _ _ | templateById _ | record _
            | unknownTrigger _ | recent _ | now =>
                cases hcall
          subst hchannel
          rw [hanswer, hand_of_not_configured hclient h]
        · exact ih _ _ e hrest call hcall hchannel
  intro call hcall
  obtain ⟨hmem, hchannel⟩ := List.mem_filter.mp hcall
  obtain ⟨e, he, hsome⟩ := List.mem_filterMap.mp hmem
  exact hexchanges e he call hsome (of_decide_eq_true hchannel)

end NotConfigured

/-! ## What is reported of a call -/

section Reports

variable {trigger : String} {data : NoticeData} {options : SendOptions}
    {s : State} {call : ClientCall}

/-- A branch comes to what the client of its channel answered, if it calls that
and the business records can be written. -/
theorem result_branchOn_of_mem_calls (hlog : w.faults .log = none)
    {context : Fields} (hlinks : Links.AreWritable context)
    {settings : Settings}
    (hcall : call ∈
      (w.course (Dispatch.branchOn channel trigger context settings options)
        s).calls) :
    call.letter.channel = channel ∧
      (w.course (Dispatch.branchOn channel trigger context settings options)
        s).result =
        .ok (some (Notice.outcomeOf call.answer)) := by
  rcases w.branchOn_quiet_or_delivers channel trigger context settings
    options s with
    ⟨hquiet, -⟩ | ⟨template, recipient, -, hresult, hcalls, -⟩
  · rw [hquiet] at hcall
    cases hcall
  · rw [hcalls, calls_deliver] at hcall
    obtain rfl := List.mem_singleton.mp hcall
    rw [hresult, Links.ofContext_of_areWritable hlinks, result_deliver, hlog]
    exact ⟨Template.channel_letter .., rfl⟩

/-- A dispatch reports on each channel what its client answered, if that is
called and the business records can be written. -/
theorem on_dispatch_of_mem_calls (hlog : w.faults .log = none)
    (hlinks : Links.AreWritable data.context)
    (hcall : call ∈ (w.course (dispatch trigger data options) s).calls) :
    ∃ dispatched,
      (w.course (dispatch trigger data options) s).result = .ok dispatched ∧
      dispatched.on call.letter.channel =
        some (Notice.outcomeOf call.answer) := by
  rcases w.dispatch_quiet_or_branches trigger data options s with
    ⟨hquiet, -⟩ |
      ⟨settings, start, email, sms, -, -, hemail, hsms, hresult, hcalls, -⟩
  · rw [hquiet] at hcall
    cases hcall
  · refine ⟨_, hresult, ?_⟩
    rw [hcalls] at hcall
    rcases List.mem_append.mp hcall with hfirst | hsecond
    · obtain ⟨hchannel, hbranch⟩ :=
        result_branchOn_of_mem_calls hlog hlinks hfirst
      rw [hchannel]
      exact Except.ok.inj (hemail.symm.trans hbranch)
    · obtain ⟨hchannel, hbranch⟩ :=
        result_branchOn_of_mem_calls hlog hlinks hsecond
      rw [hchannel]
      exact Except.ok.inj (hsms.symm.trans hbranch)

/-- A test comes to what the client answered, if it calls one. -/
theorem result_sendTest_of_mem_calls (hlog : w.faults .log = none)
    {templateId recipient : String}
    (hcall : call ∈ (w.course (sendTest templateId recipient) s).calls) :
    (w.course (sendTest templateId recipient) s).result =
      .ok (Notice.outcomeOf call.answer) := by
  rcases w.sendTest_quiet_or_delivers templateId recipient s with
    ⟨hquiet, -⟩ | ⟨template, settings, data, -, -, hresult, hcalls, -⟩
  · rw [hquiet] at hcall
    cases hcall
  · rw [hcalls, calls_deliver] at hcall
    obtain rfl := List.mem_singleton.mp hcall
    rw [hresult, result_deliver, hlog]
    rfl

end Reports

end World

/-! ## What is written of a call -/

/-- A document holds the letter of a call and what became of it. -/
def ClientCall.IsBookedIn (call : ClientCall) (doc : Fields) : Prop :=
  ∃ templateId link,
    Records doc call.letter templateId (Notice.outcomeOf call.answer) link

namespace Course

variable {α β : Type}

/-- A course keeps book if it writes one document for each of its calls, in
their order, of which the log takes those whose writes do not fail. -/
def Books (c : Course α) (failing : Nat → Bool) (s : State) : Prop :=
  ∃ docs, c.after.writes = s.writes + docs.length ∧
    c.after.log = s.log ++ taken failing s.writes docs ∧
    List.Forall₂ ClientCall.IsBookedIn c.calls docs

variable {c : Course α} {failing : Nat → Bool} {s : State}

/-- A course without calls keeps book if it writes nothing. -/
theorem books_of_quiet (hcalls : c.calls = [])
    (hwrites : c.after.writes = s.writes) (hlog : c.after.log = s.log) :
    c.Books failing s := by
  refine ⟨[], hwrites, by simp [hlog, taken], ?_⟩
  rw [hcalls]
  exact .nil

/-- A course keeps book if both of its parts do. -/
theorem Books.andThen {next : α → State → Course β} (hc : c.Books failing s)
    (hnext : ∀ a, (next a c.after).Books failing c.after) :
    (c.andThen next).Books failing s := by
  obtain ⟨docs, hwrites, hlog, hdocs⟩ := hc
  unfold Course.andThen
  cases hresult : c.result with
  | error f => exact ⟨docs, hwrites, hlog, hdocs⟩
  | ok a =>
      obtain ⟨more, hwrites', hlog', hmore⟩ := hnext a
      refine ⟨docs ++ more, ?_, ?_, ?_⟩
      · rw [List.length_append, ← Nat.add_assoc, ← hwrites]
        exact hwrites'
      · rw [taken_append, ← hwrites, ← List.append_assoc, ← hlog]
        exact hlog'
      · unfold Course.calls
        rw [List.filterMap_append]
        exact List.rel_append hdocs hmore

end Course

namespace World

variable {α β : Type}

/-- A program keeps book if all of its courses do. -/
def Books (w : World) (p : Program α) : Prop :=
  ∀ s, (w.course p s).Books w.outage.writeLog s

section Booking

variable {w : World}

theorem books_pure (a : α) : w.Books (pure a : Program α) :=
  fun _ => Course.books_of_quiet rfl rfl rfl

theorem Books.bind {p : Program α} {k : α → Program β} (hp : w.Books p)
    (hk : ∀ a, w.Books (k a)) :
    w.Books (p >>= k) := by
  intro s
  rw [course_bind]
  exact (hp s).andThen fun a => hk a _

theorem Books.attempt {p : Program α} (hp : w.Books p) : w.Books p.attempt := by
  intro s
  rw [course_attempt]
  exact hp s

/-- A request that goes neither to a client nor to the log keeps book. -/
theorem books_call {r : Request} (elsewhere : r.isAboutLog = false)
    (hquiet : ∀ answer, Exchange.clientCall? ⟨r, answer⟩ = none) :
    w.Books (Program.call r) := by
  intro s
  rw [course_call]
  refine Course.books_of_quiet ?_ (w.answer_elsewhere elsewhere s).2
    (w.log_answer_of_ne s ?_)
  · simp [Course.ofAnswer, Course.calls, hquiet]
  · rintro attempt rfl
    cases elsewhere

variable (hlog : w.faults .log = none)

include hlog

/-- A delivery keeps book: its document holds the letter and what the client
answered. -/
theorem books_deliver (l : Letter) (templateId : String) (links : Links) :
    w.Books (l.deliver templateId (.ok links)) := by
  intro s
  let handed := w.hand l s
  let attempt := l.attempt templateId links (Notice.outcomeOf handed.1)
  have hquiet : handed.2.log = s.log ∧ handed.2.writes = s.writes := by
    refine ⟨w.log_hand l s, ?_⟩
    cases l with
    | email mail => exact (w.answer_elsewhere (r := .email mail) rfl s).2
    | sms recipient body =>
        exact (w.answer_elsewhere (r := .sms recipient body) rfl s).2
  have hafter : (w.course (l.deliver templateId (.ok links)) s).after =
      (w.record attempt handed.2).2 := by
    rw [course_deliver]
    exact congrArg Prod.snd (w.answer_record_of_none hlog attempt handed.2)
  refine ⟨[(attempt.stamp (w.logIds s.writes) w.now).toFields], ?_, ?_, ?_⟩
  · rw [hafter, record_after]
    exact congrArg (· + 1) hquiet.2
  · rw [hafter, record_after, taken_singleton, hquiet.1, hquiet.2]
  · rw [calls_deliver]
    exact .cons ⟨templateId, links.named, records_stamp ..⟩ .nil

/-- A branch keeps book if the business records can be written. -/
theorem books_branchOn (channel : Channel) (trigger : String) {context : Fields}
    (hlinks : Links.AreWritable context) (settings : Settings)
    (options : SendOptions) :
    w.Books (Dispatch.branchOn channel trigger context settings options) := by
  intro s
  rcases w.branchOn_quiet_or_delivers channel trigger context settings
    options s with
    ⟨hquiet, hafter⟩ | ⟨template, recipient, -, -, hcalls, hafter⟩
  · exact Course.books_of_quiet hquiet (by rw [hafter]) (by rw [hafter])
  · unfold Course.Books
    rw [hcalls, hafter, Links.ofContext_of_areWritable hlinks]
    exact books_deliver hlog _ _ _ s

/-- A dispatch keeps book if the business records can be written. -/
theorem books_dispatch (trigger : String) {data : NoticeData}
    (hlinks : Links.AreWritable data.context) (options : SendOptions) :
    w.Books (dispatch trigger data options) := by
  rw [dispatch_eq]
  refine (books_call rfl fun _ => rfl).bind fun found => ?_
  cases found with
  | none => exact books_pure _
  | some settings =>
      have hallowed : w.Books (Dispatch.isAllowed settings trigger) := by
        unfold Dispatch.isAllowed
        cases Trigger.ofWord? trigger with
        | some t => exact books_pure _
        | none => exact (books_call rfl fun _ => rfl).attempt.bind fun _ =>
            books_pure _
      refine hallowed.bind fun allowed => ?_
      cases allowed with
      | false => exact books_pure _
      | true =>
          exact (books_branchOn hlog .email trigger hlinks settings
            options).bind fun _ =>
            (books_branchOn hlog .sms trigger hlinks settings options).bind
              fun _ => books_pure _

/-- A test keeps book. -/
theorem books_sendTest (templateId recipient : String) :
    w.Books (sendTest templateId recipient) := by
  intro s
  rcases w.sendTest_quiet_or_delivers templateId recipient s with
    ⟨hquiet, hafter⟩ | ⟨template, settings, data, -, -, -, hcalls, hafter⟩
  · exact Course.books_of_quiet hquiet (by rw [hafter]) (by rw [hafter])
  · unfold Course.Books
    rw [hcalls, hafter]
    exact books_deliver hlog _ _ _ s

end Booking

/-! ## The report and the sending -/

/-- A program spares the provider of a channel: it is not used, and each letter
fails because the client is not configured. -/
structure Spares (w : World) (channel : Channel) (p : Program α) (s : State) :
    Prop where
  traffic : (w.course p s).after.trafficOn channel = s.trafficOn channel
  fails : ∀ call ∈ (w.course p s).callsOn channel,
    call.answer = .ok (.failed channel.notConfigured)

/-- A program turns the letters of a channel away: it spares the provider,
and that the client is not configured is what is reported on the channel.
Of each letter a document is written that says so, and the log takes those
whose writes do not fail. -/
structure TurnsAway (w : World) (channel : Channel) (p : Program α)
    (reported : α → Option Outcome) (s : State) :
    Prop extends w.Spares channel p s where
  reports : ∀ call ∈ (w.course p s).callsOn channel,
    ∃ a, (w.course p s).result = .ok a ∧
      reported a = some (.failed channel.notConfigured)
  books : ∃ docs, (w.course p s).after.writes = s.writes + docs.length ∧
    (w.course p s).after.log = s.log ++ taken w.outage.writeLog s.writes docs ∧
    List.Forall₂ (fun call doc => call.letter.channel = channel →
      doc.get? "type" = some (.string channel.word) ∧
        doc.get? "status" = some (.string "failed") ∧
        doc.get? "error_message" = some (.string channel.notConfigured.message))
      (w.course p s).calls docs

section TurningAway

variable {w : World} {channel : Channel}

/-- Every program spares the provider of a channel that is not configured. -/
theorem spares (hclient : w.faults channel.client = none)
    (h : w.isConfigured channel = false) (p : Program α) (s : State) :
    w.Spares channel p s :=
  ⟨trafficOn_run hclient h p s, answer_of_mem_callsOn hclient h p s⟩

/-- A program that keeps book and reports what the clients answer turns away the
letters of a channel that is not configured. -/
theorem turnsAway (hclient : w.faults channel.client = none)
    (h : w.isConfigured channel = false) {p : Program α}
    {reported : α → Option Outcome} {s : State} (hbooks : w.Books p)
    (hreports : ∀ call ∈ (w.course p s).callsOn channel, ∃ a,
      (w.course p s).result = .ok a ∧
      reported a = some (Notice.outcomeOf call.answer)) :
    w.TurnsAway channel p reported s := by
  have hspares := spares hclient h p s
  refine ⟨hspares, ?_, ?_⟩
  · intro call hcall
    obtain ⟨a, hresult, hreported⟩ := hreports call hcall
    rw [hspares.fails call hcall] at hreported
    exact ⟨a, hresult, hreported⟩
  · obtain ⟨docs, hwrites, hlog, hdocs⟩ := hbooks s
    refine ⟨docs, hwrites, hlog, ?_⟩
    -- pair by pair, because a call has to be known as one of the
    -- course to know its answer
    refine List.forall₂_iff_zip.mpr ⟨hdocs.length_eq, ?_⟩
    intro call doc hmem hchannel
    obtain ⟨templateId, link, hrecords⟩ :=
      (List.forall₂_iff_zip.mp hdocs).2 hmem
    have hcall : call ∈ (w.course p s).callsOn channel :=
      List.mem_filter.mpr ⟨(List.of_mem_zip hmem).1, decide_eq_true hchannel⟩
    rw [hspares.fails call hcall] at hrecords
    exact ⟨hchannel ▸ hrecords.channel, hrecords.status, hrecords.error⟩

end TurningAway

end World

/-- **The status report.**  With its own stores and clients the service can
always report its status, and what is reported of a channel is what sending
goes by.  If the channel is switched off, a dispatch never calls its client.
If it is switched on, a dispatch comes to an outcome on it, unless the options
exclude it.  If it is not configured, dispatches and tests spare its provider,
and they turn its letters away: tests do, and dispatches whose business
records can be written. -/
theorem status_agrees_with_sending (w : World) (s : State) :
    let own : World := { w with faults := fun _ => none }
    ∃ report,
      (own.run (status own.email.isConfigured own.sms.isConfigured) s).1 =
        .ok report ∧
      ∀ channel,
        ((report.on channel).enabled = false → ∀ trigger data options t,
          (own.course (dispatch trigger data options) t).callsOn channel = []) ∧
        ((report.on channel).enabled = true →
          ∀ trigger data options t, channel.isExcluded options = false →
          ∃ dispatched outcome,
            (own.course (dispatch trigger data options) t).result =
              .ok dispatched ∧
            dispatched.toResult.on channel = some outcome) ∧
        ((report.on channel).configured = false →
          (∀ trigger data options t,
            own.Spares channel (dispatch trigger data options) t ∧
              (Links.AreWritable data.context →
                own.TurnsAway channel (dispatch trigger data options)
                  (·.on channel) t)) ∧
          ∀ templateId recipient t,
            own.TurnsAway channel (sendTest templateId recipient) some t) := by
  intro own
  obtain ⟨report, hreport, hon⟩ := World.run_status (w := own) rfl s
  refine ⟨report, hreport, fun channel => ?_⟩
  rw [hon channel]
  refine ⟨?_, ?_, ?_⟩
  · intro hoff trigger data options t
    apply World.callsOn_dispatch_of_off rfl rfl
    intro settings hset
    simpa [hset] using hoff
  · intro henabled trigger data options t hexcluded
    cases hset : own.settings? with
    | none => simp [hset] at henabled
    | some settings =>
        have hswitch : settings.enables channel = true := by
          simpa [hset] using henabled
        obtain ⟨dispatched, outcome, hresult, hsome⟩ :=
          World.on_dispatch_of_on trigger data rfl hset hswitch hexcluded t
        exact ⟨dispatched, _, hresult, by
          rw [Dispatched.on_toResult, hsome]; rfl⟩
  · intro hconfigured
    constructor
    · intro trigger data options t
      refine ⟨World.spares rfl hconfigured _ t, fun hlinks => ?_⟩
      apply World.turnsAway rfl hconfigured
        (World.books_dispatch rfl trigger hlinks options)
      intro call hcall
      obtain ⟨hmem, hchannel⟩ := List.mem_filter.mp hcall
      obtain ⟨dispatched, hresult, hreported⟩ :=
        World.on_dispatch_of_mem_calls rfl hlinks hmem
      rw [of_decide_eq_true hchannel] at hreported
      exact ⟨dispatched, hresult, hreported⟩
    · intro templateId recipient t
      apply World.turnsAway rfl hconfigured
        (World.books_sendTest rfl templateId recipient)
      intro call hcall
      exact ⟨_,
        World.result_sendTest_of_mem_calls rfl (List.mem_filter.mp hcall).1,
        rfl⟩

/-- In a shop whose mail server has an empty name, a mail fails and is logged as
that, and nothing is submitted. -/
theorem mail_to_a_server_without_a_name :
    let w : World :=
      { World.shop with email := { World.shop.email with host := some "" } }
    let data : NoticeData := ⟨[("customer_email", .string "ana@example.com")]⟩
    let course := w.course (dispatch "invoice_ready" data {}) {}
    w.isConfigured .email = false ∧ (course.callsOn .email).length = 1 ∧
      course.after.trafficOn .email = [] ∧
      (∃ dispatched, course.result = .ok dispatched ∧
        dispatched.toResult.on .email = some (.failed "SMTP not configured")) ∧
      ∃ doc, course.after.log = [doc] ∧
        doc.get? "status" = some (.string "failed") ∧
        doc.get? "error_message" = some (.string "SMTP not configured") := by
  intro w data course
  obtain ⟨report, hreport, hagree⟩ := status_agrees_with_sending w {}
  have hconfigured : (report.on .email).configured = false := by
    obtain rfl := Except.ok.inj hreport
    rfl
  have hlinks : Links.AreWritable data.context :=
    fun _ _ v hv => Value.isWritable_of_present? rfl hv
  have haway :
      w.TurnsAway .email (dispatch "invoice_ready" data {}) (·.on .email) {} :=
    (((hagree .email).2.2 hconfigured).1 "invoice_ready" data {} {}).2 hlinks
  have hchannels : course.calls.map (·.letter.channel) = [.email] := by
    decide +kernel
  obtain ⟨call, hcall, hchannel⟩ := List.map_eq_singleton_iff.mp hchannels
  have hmail : course.callsOn .email = [call] := by
    simp [Course.callsOn, hcall, hchannel]
  refine ⟨rfl, by rw [hmail]; rfl, haway.traffic, ?_, ?_⟩
  · obtain ⟨dispatched, hresult, hon⟩ :=
      haway.reports call (hmail ▸ List.mem_singleton_self call)
    exact ⟨dispatched, hresult, by rw [Dispatched.on_toResult, hon]; rfl⟩
  · obtain ⟨docs, -, hlog, hdocs⟩ := haway.books
    simp only [course] at hcall
    rw [hcall] at hdocs
    obtain ⟨doc, rest, hdoc, hrest, rfl⟩ := List.forall₂_cons_left_iff.mp hdocs
    obtain rfl := List.forall₂_nil_left_iff.mp hrest
    exact ⟨doc, hlog.trans (taken_all 0 [doc]), (hdoc hchannel).2⟩

/-- In the same shop a mail also fails if the log cannot be written.  That is
reported, and nothing of it is in the log. -/
theorem refused_write_of_a_mail_that_fails :
    let w : World := { World.shop with
      email := { World.shop.email with host := some "" }
      outage := { writeLog := fun _ => true } }
    let data : NoticeData := ⟨[("customer_email", .string "ana@example.com")]⟩
    let course := w.course (dispatch "invoice_ready" data {}) {}
    w.isConfigured .email = false ∧ (course.callsOn .email).length = 1 ∧
      course.result.toOption.bind (·.toResult.on .email) =
        some (.failed "SMTP not configured") ∧
      course.after.log.length = 0 := by
  decide +kernel

end Notices
