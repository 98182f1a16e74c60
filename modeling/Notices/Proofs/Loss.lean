import Notices.Proofs.Blind
import Notices.Proofs.History

/-!
# Lost writes

The log may refuse a write.  The programs of the service are blind to that, so
what is lost with a write is the document, and nothing else.

* `Abreast` says what two runs have in common of which different writes are
  lost.
* `World.abreast_runWhile` says that two runs of a blind program have this in
  common, and `abreast_work` says it of any number of jobs.
* `Job.after_run_eq_perform` says that a job for which nothing goes on at the
  same time is an operation of a history.
* `lost_writes_lose_nothing_else` says what a run with lost writes has in
  common with one without.
-/

namespace Notices

/-! ## Runs that lose different writes -/

/-- Whether an event is that the log took a document. -/
def Event.isLogged : Event → Bool
  | .logged _ => true
  | _ => false

namespace State

/-- A state without the log: the traffic with all others, and what was
counted. -/
def unlogged (s : State) : State :=
  { s with log := [], events := s.events.filter (!·.isLogged) }

end State

/-- What a log has taken of a list of documents whose writes are numbered from
some number on, if certain writes fail. -/
def taken (failing : Nat → Bool) (number : Nat) (docs : List Fields) :
    List Fields :=
  ((docs.zipIdx number).filter fun doc => !failing doc.2).map (·.1)

theorem taken_singleton (failing : Nat → Bool) (number : Nat) (doc : Fields) :
    taken failing number [doc] = if failing number then [] else [doc] := by
  cases h : failing number <;> simp [taken, h]

theorem taken_append (failing : Nat → Bool) (number : Nat)
    (docs more : List Fields) :
    taken failing number (docs ++ more) =
      taken failing number docs ++
        taken failing (number + docs.length) more := by
  simp [taken, List.zipIdx_append]

/-- A log whose writes do not fail takes all documents. -/
theorem taken_all (number : Nat) (docs : List Fields) :
    taken (fun _ => false) number docs = docs := by
  simp [taken, List.zipIdx_map_fst]

/-- Documents without the ids that the log gave them. -/
def unidentified (docs : List Fields) : List Fields :=
  docs.map (Fields.erase · "log_id")

/-- Two runs from `s` and `t` to `s'` and `t'`, of which different writes fail,
are abreast: they leave the same but for the log, and there is a list of
documents, one for each write, of which each log has taken those whose writes
did not fail.  The ids of documents do not count. -/
structure Abreast (failing other : Nat → Bool) (s t s' t' : State) : Prop where
  unlogged : s'.unlogged = t'.unlogged
  written : ∃ docs new new', s'.writes = s.writes + docs.length ∧
    s'.log = s.log ++ new ∧ unidentified new = taken failing s.writes docs ∧
    t'.log = t.log ++ new' ∧ unidentified new' = taken other s.writes docs

namespace Abreast

variable {failing other : Nat → Bool} {s t s' t' s'' t'' : State}

/-- Runs that write nothing are abreast if they leave the same but for the
log. -/
theorem of_quiet (h : s'.unlogged = t'.unlogged)
    (hwrites : s'.writes = s.writes) (hlog : s'.log = s.log)
    (hlog' : t'.log = t.log) : Abreast failing other s t s' t' :=
  ⟨h, [], [], [], by
    simpa using hwrites, by simpa using hlog, rfl, by simpa using hlog', rfl⟩

/-- Runs that are abreast stay so if they go on abreast. -/
theorem trans (h : Abreast failing other s t s' t')
    (h' : Abreast failing other s' t' s'' t'') :
    Abreast failing other s t s'' t'' := by
  obtain ⟨-, docs, new, new', hwrites, hlog, hnew, hlog', hnew'⟩ := h
  obtain ⟨hsame, docs₂, new₂, new₂', hwrites₂, hlog₂, hnew₂, hlog₂', hnew₂'⟩ :=
    h'
  rw [hwrites] at hnew₂ hnew₂'
  refine ⟨hsame, docs ++ docs₂, new ++ new₂, new' ++ new₂', ?_, ?_, ?_, ?_, ?_⟩
  · rw [hwrites₂, hwrites, List.length_append, Nat.add_assoc]
  · rw [hlog₂, hlog, List.append_assoc]
  · rw [taken_append, ← hnew, ← hnew₂]
    exact List.map_append
  · rw [hlog₂', hlog', List.append_assoc]
  · rw [taken_append, ← hnew', ← hnew₂']
    exact List.map_append

end Abreast

namespace World

variable {α : Type} {s t : State}

/-- A world whose log fails at certain writes and gives certain ids. -/
def recording (w : World) (failing : Nat → Bool) (ids : Nat → String) : World :=
  { w with outage := { w.outage with writeLog := failing }, logIds := ids }

/-- A request that is not about the log is answered as if there were
none, and writes nothing. -/
theorem answer_elsewhere (w : World) {r : Request}
    (elsewhere : r.isAboutLog = false) (s : State) :
    w.answer s.unlogged r = ((w.answer s r).1, (w.answer s r).2.unlogged) ∧
      (w.answer s r).2.writes = s.writes := by
  unfold answer
  split
  · exact ⟨rfl, rfl⟩
  · cases r with
    | settings | template _ _ | templateById _ | now => exact ⟨rfl, rfl⟩
    | email mail =>
        simp only [serve, sendEmail_eq]
        simp [State.unlogged, List.filter_map, Function.comp_def,
          Event.isLogged]
    | sms recipient body =>
        simp only [serve, sendSms_eq]
        simp [State.unlogged, List.filter_map, Function.comp_def,
          Event.isLogged]
    | unknownTrigger trigger =>
        simp only [serve, reportUnknown]
        cases w.hook <;> simp [State.unlogged, State.put, Event.isLogged]
    | record attempt => cases elsewhere
    | recent limit => cases elsewhere

/-- A request that is not about the log does not depend on how writes fare. -/
theorem answer_recording (w : World) {r : Request}
    (elsewhere : r.isAboutLog = false) (failing : Nat → Bool)
    (ids : Nat → String) (s : State) :
    (w.recording failing ids).answer s r = w.answer s r := by
  cases r with
  | record attempt => cases elsewhere
  | recent limit => cases elsewhere
  | _ => rfl

variable (w : World) (failing other : Nat → Bool) (ids ids' : Nat → String)

/-- A request that is not about the log has the same answer in states that are
the same but for the log, and leaves such states. -/
theorem abreast_answer {r : Request} (elsewhere : r.isAboutLog = false)
    (h : s.unlogged = t.unlogged) :
    let first := (w.recording failing ids).answer s r
    let second := (w.recording other ids').answer t r
    first.1 = second.1 ∧ Abreast failing other s t first.2 second.2 := by
  intro first second
  have hfirst : first = w.answer s r :=
    w.answer_recording elsewhere failing ids s
  have hsecond : second = w.answer t r :=
    w.answer_recording elsewhere other ids' t
  have hquiet : ∀ attempt, r ≠ .record attempt := by
    rintro attempt rfl
    cases elsewhere
  obtain ⟨hsame, hwrites⟩ := w.answer_elsewhere elsewhere s
  rw [h, (w.answer_elsewhere elsewhere t).1] at hsame
  obtain ⟨hanswer, hafter⟩ := Prod.mk.inj hsame
  rw [hfirst, hsecond]
  exact ⟨hanswer.symm,
    .of_quiet hafter.symm hwrites (w.log_answer_of_ne s hquiet)
    (w.log_answer_of_ne t hquiet)⟩

/-- Behind an attempt that was recorded, what is not the log is the same but for
the number of writes. -/
theorem unlogged_record (w : World) (attempt : Attempt) (s : State) :
    (w.record attempt s).2.unlogged =
      { s.unlogged with writes := s.writes + 1 } := by
  have hquiet : ∀ docs : List Fields,
      (docs.map Event.logged).filter (!·.isLogged) = [] := by
    simp [List.filter_map, Function.comp_def, Event.isLogged]
  rw [record_after]
  simp only [State.unlogged, List.filter_append, hquiet, List.append_nil]

/-- The log takes the document of an attempt that is recorded,
unless that write fails. -/
theorem log_record (attempt : Attempt) (s : State) :
    ∃ new, ((w.recording failing ids).record attempt s).2.log = s.log ++ new ∧
      unidentified new =
        taken failing s.writes
          [(attempt.stamp "" w.now).toFields.erase "log_id"] := by
  rw [record_after, taken_singleton]
  refine ⟨_, rfl, ?_⟩
  show unidentified (if failing s.writes then [] else _) = _
  cases failing s.writes <;> rfl

/-- An attempt is recorded abreast, by the document that it is to have. -/
theorem abreast_record (attempt : Attempt) (h : s.unlogged = t.unlogged) :
    Abreast failing other s t ((w.recording failing ids).record attempt s).2
      ((w.recording other ids').record attempt t).2 := by
  have hwrites : s.writes = t.writes :=
    (congrArg State.writes h : s.unlogged.writes = t.unlogged.writes)
  obtain ⟨new, hlog, hnew⟩ := w.log_record failing ids attempt s
  obtain ⟨new', hlog', hnew'⟩ := w.log_record other ids' attempt t
  refine ⟨?_, _, new, new', ?_, hlog, hnew, hlog', hwrites ▸ hnew'⟩
  · rw [unlogged_record, unlogged_record, h, hwrites]
  · rw [record_after]
    rfl

/-- A log that fails as a whole fails to record an attempt, and nothing
changes. -/
theorem answer_record_of_fault {f : Failure} (hfault : w.faults .log = some f)
    (attempt : Attempt) (s : State) :
    w.answer s (.record attempt) = (.error f, s) := by
  simp [answer, collaborator?, hfault]

/-- A log that does not fail as a whole says whether an attempt was written. -/
theorem answer_record_of_none (hfault : w.faults .log = none)
    (attempt : Attempt) (s : State) :
    w.answer s (.record attempt) =
      (.ok (w.record attempt s).1, (w.record attempt s).2) := by
  simp [answer, collaborator?, hfault, serve]

/-- To record an attempt fails in both runs, or in neither, and then the log
says in each whether it was written. -/
theorem abreast_answer_record (attempt : Attempt)
    (h : s.unlogged = t.unlogged) :
    let first := (w.recording failing ids).answer s (.record attempt)
    let second := (w.recording other ids').answer t (.record attempt)
    (first.1 = second.1 ∨
      ∃ written written', first.1 = .ok written ∧ second.1 = .ok written') ∧
      Abreast failing other s t first.2 second.2 := by
  intro first second
  cases hfault : w.faults .log with
  | some f =>
      have hfirst : first = (.error f, s) :=
        (w.recording failing ids).answer_record_of_fault hfault attempt s
      have hsecond : second = (.error f, t) :=
        (w.recording other ids').answer_record_of_fault hfault attempt t
      rw [hfirst, hsecond]
      exact ⟨Or.inl rfl, .of_quiet h rfl rfl rfl⟩
  | none =>
      have hfirst : first =
          (.ok ((w.recording failing ids).record attempt s).1, _) :=
        (w.recording failing ids).answer_record_of_none hfault attempt s
      have hsecond : second =
          (.ok ((w.recording other ids').record attempt t).1, _) :=
        (w.recording other ids').answer_record_of_none hfault attempt t
      rw [hfirst, hsecond]
      exact ⟨Or.inr ⟨_, _, rfl, rfl⟩,
        w.abreast_record failing other ids ids' attempt h⟩

/-- What a program asks for first is answered in both runs such that they go on
with the same program. -/
theorem abreast_ask {r : Request} {next : Except Failure r.Answer → Program α}
    (hp : (Program.ask r next).IsBlind) (h : s.unlogged = t.unlogged) :
    let first := (w.recording failing ids).answer s r
    let second := (w.recording other ids').answer t r
    next first.1 = next second.1 ∧
      Abreast failing other s t first.2 second.2 := by
  intro first second
  cases hp with
  | ask elsewhere _ =>
      obtain ⟨hanswer, habreast⟩ :=
        w.abreast_answer failing other ids ids' elsewhere h
      exact ⟨congrArg _ hanswer, habreast⟩
  | record heedless _ =>
      obtain ⟨hanswer, habreast⟩ :=
        w.abreast_answer_record failing other ids ids' _ h
      refine ⟨?_, habreast⟩
      rcases hanswer with hsame | ⟨written, written', hfirst, hsecond⟩
      · exact congrArg _ hsame
      · simp only [first, second, hfirst, hsecond]
        cases written <;> cases written' <;> simp [heedless]

/-- Two runs of a blind program, of which different writes fail, are abreast
and come to the same. -/
theorem abreast_runWhile {p : Program α} (hp : p.IsBlind)
    (clock : Nat → Timestamp) (n : Nat) (h : s.unlogged = t.unlogged) :
    let first := (w.recording failing ids).runWhile clock n p s
    let second := (w.recording other ids').runWhile clock n p t
    first.1 = second.1 ∧ Abreast failing other s t first.2 second.2 := by
  induction p generalizing n s t with
  | done a => exact ⟨rfl, .of_quiet h rfl rfl rfl⟩
  | failed f => exact ⟨rfl, .of_quiet h rfl rfl rfl⟩
  | ask r next ih =>
      obtain ⟨hnext, habreast⟩ :=
        (w.atTime (clock n)).abreast_ask failing other ids ids' hp h
      let first := ((w.atTime (clock n)).recording failing ids).answer s r
      let second := ((w.atTime (clock n)).recording other ids').answer t r
      obtain ⟨hresult, hrest⟩ :=
        ih first.1 (hp.next first.1) (n + 1) habreast.unlogged
      have hsecond : (w.recording other ids').runWhile clock n (.ask r next) t =
          (w.recording other ids').runWhile clock (n + 1)
          (next first.1) second.2 := by
        simp only [first, second, hnext]
        rfl
      rw [hsecond]
      exact ⟨hresult, habreast.trans hrest⟩

end World

/-! ## Jobs -/

/-- What an operation of the service comes to. -/
inductive Reported where
  | dispatched (d : Dispatched)
  | tested (outcome : Outcome)
  | status (report : StatusReport)
  | recent (entries : List LogEntry)

/-- The program of an operation, in which the branches of a dispatch take
turns. -/
def Operation.program (picks : List Nat)
    (emailConfigured smsConfigured : Bool) :
    Operation → Program Reported
  | .dispatch trigger data options =>
      .dispatched <$> Dispatch.inTurns picks trigger data options
  | .sendTest templateId recipient =>
      .tested <$> Notices.sendTest templateId recipient
  | .status => .status <$> Notices.status emailConfigured smsConfigured
  | .recentLog limit => .recent <$> Notices.recentLog limit

/-- Whether an operation is a look at the log. -/
def Operation.looksAtLog : Operation → Bool
  | .recentLog _ => true
  | _ => false

/-- An operation that does not look at the log is blind to it. -/
theorem Operation.isBlind_program {operation : Operation}
    (hlooks : operation.looksAtLog = false) (picks : List Nat)
    (emailConfigured smsConfigured : Bool) :
    (operation.program picks emailConfigured smsConfigured).IsBlind := by
  cases operation with
  | dispatch trigger data options =>
      exact (Dispatch.isBlind_inTurns picks trigger data options).map _
  | sendTest templateId recipient =>
      exact (isBlind_sendTest templateId recipient).map _
  | status => exact (isBlind_status emailConfigured smsConfigured).map _
  | recentLog limit => cases hlooks

/-- An operation that the service performs in a world, while a clock goes on.
If it is a dispatch, there is an order in which its branches take turns. -/
structure Job where
  world : World
  clock : Nat → Timestamp
  operation : Operation
  branchPicks : List Nat

namespace Job

/-- The program of a job. -/
def program (job : Job) : Program Reported :=
  job.operation.program job.branchPicks job.world.email.isConfigured
    job.world.sms.isConfigured

/-- What a job comes to, and the state it leaves. -/
def run (job : Job) (s : State) : Except Failure Reported × State :=
  job.world.runWhile job.clock 0 job.program s

/-- A job of which certain writes fail and which has certain ids for its
documents. -/
def recording (job : Job) (failing : Nat → Bool) (ids : Nat → String) : Job :=
  { job with world := job.world.recording failing ids }

/-- A job for which the clock stands still, and whose branches do not take
turns, performs its operation. -/
theorem after_run_eq_perform (w : World) (operation : Operation) (s : State) :
    (Job.run ⟨w, fun _ => w.now, operation, []⟩ s).2 =
      w.perform s operation := by
  have hrun :=
    w.runWhile_const w.now 0
      (operation.program [] w.email.isConfigured w.sms.isConfigured) s
  refine (congrArg Prod.snd hrun).trans ?_
  show (w.run _ s).2 = _
  cases operation with
  | dispatch trigger data options =>
      unfold Operation.program
      rw [World.run_map, Dispatch.inTurns_nil]
      rfl
  | sendTest templateId recipient => exact congrArg Prod.snd (w.run_map ..)
  | status => exact congrArg Prod.snd (w.run_map ..)
  | recentLog limit => exact congrArg Prod.snd (w.run_map ..)

end Job

namespace State

/-- Does jobs one after another.  What each of them comes to is put down. -/
def work (s : State) : List Job → List (Except Failure Reported) × State
  | [] => ([], s)
  | job :: jobs =>
      ((job.run s).1 :: ((job.run s).2.work jobs).1,
        ((job.run s).2.work jobs).2)

end State

/-- Jobs that do not look at the log are done abreast, whichever writes fail,
and come to the same. -/
theorem abreast_work (failing other : Nat → Bool) (ids ids' : Nat → String)
    {jobs : List Job} (hlooks : ∀ job ∈ jobs, job.operation.looksAtLog = false)
    {s t : State} (h : s.unlogged = t.unlogged) :
    let first := s.work (jobs.map (·.recording failing ids))
    let second := t.work (jobs.map (·.recording other ids'))
    first.1 = second.1 ∧ Abreast failing other s t first.2 second.2 := by
  induction jobs generalizing s t with
  | nil => exact ⟨rfl, .of_quiet h rfl rfl rfl⟩
  | cons job jobs ih =>
      have hblind : job.program.IsBlind :=
        Operation.isBlind_program (hlooks job (List.mem_cons_self ..))
          job.branchPicks _ _
      obtain ⟨hreport, habreast⟩ :=
        job.world.abreast_runWhile failing other ids ids' hblind job.clock 0 h
      obtain ⟨hreports, hrest⟩ :=
        ih (fun other hother => hlooks other (List.mem_cons_of_mem job hother))
          habreast.unlogged
      exact ⟨List.cons_eq_cons.mpr ⟨hreport, hreports⟩, habreast.trans hrest⟩

/-- **Lost writes.**  Of the writes of any number of dispatches, tests and
status reports some fail.  Then these come to what they come to if no write
fails, and what leaves the service is the same: the mails, the requests to
the provider of text messages and the reports of unknown triggers, in their
order.  The log lacks the documents whose writes failed, and nothing else, up
to the ids of documents. -/
theorem lost_writes_lose_nothing_else (jobs : List Job)
    (hlooks : ∀ job ∈ jobs, job.operation.looksAtLog = false)
    (failing : Nat → Bool) (ids ids' : Nat → String) (s : State) :
    let whole := s.work (jobs.map (·.recording (fun _ => false) ids))
    let lossy := s.work (jobs.map (·.recording failing ids'))
    lossy.1 = whole.1 ∧ lossy.2.unlogged = whole.2.unlogged ∧
      ∃ docs kept, whole.2.log = s.log ++ docs ∧
        whole.2.writes = s.writes + docs.length ∧
        lossy.2.log = s.log ++ kept ∧
        unidentified kept = taken failing s.writes (unidentified docs) := by
  intro whole lossy
  obtain ⟨hreports, hsame, due, docs, kept, hwrites, hwhole, hdocs, hlossy,
    hkept⟩ :=
    abreast_work (fun _ => false) failing ids ids' hlooks
      (rfl : s.unlogged = s.unlogged)
  rw [taken_all] at hdocs
  have hlength : docs.length = due.length := by
    rw [← hdocs]
    exact (List.length_map _).symm
  exact ⟨hreports.symm, hsame.symm, docs, kept, hwhole, hlength ▸ hwrites,
    hlossy, hdocs ▸ hkept⟩

/-- The notice of an invoice goes out by mail and by SMS, and so does a test,
though the log of the shop loses the document of the mail. -/
theorem lost_mail_of_an_invoice :
    let invoice := Operation.dispatch "invoice_ready"
      ⟨[("customer_email", .string "ana@example.com"),
        ("customer_phone", .string "+15551234567")]⟩ {}
    let clock (n : Nat) : Timestamp := World.shop.now.addSeconds n
    let jobs : List Job := [⟨World.shop, clock, invoice, [0, 1, 1]⟩,
      ⟨World.shop, clock, .sendTest "mail-1" "shop@example.com", []⟩]
    (∀ job ∈ jobs, job.operation.looksAtLog = false) ∧
    let whole :=
      State.work {} (jobs.map (·.recording (fun _ => false) World.shop.logIds))
    let lossy :=
      State.work {} (jobs.map (·.recording (· == 0) World.shop.logIds))
    lossy.1 = whole.1 ∧ lossy.2.unlogged = whole.2.unlogged ∧
      ∃ docs kept, whole.2.log = ({} : State).log ++ docs ∧
        whole.2.writes = ({} : State).writes + docs.length ∧
        lossy.2.log = ({} : State).log ++ kept ∧
        unidentified kept = taken (· == 0)
          ({} : State).writes (unidentified docs) := by
  intro invoice clock jobs
  have hlooks : ∀ job ∈ jobs, job.operation.looksAtLog = false := by
    simp [jobs, invoice, Operation.looksAtLog]
  exact ⟨hlooks,
    lost_writes_lose_nothing_else jobs hlooks (· == 0) World.shop.logIds
    World.shop.logIds {}⟩

end Notices
