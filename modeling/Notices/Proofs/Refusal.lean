import Notices.Api.Handler
import Notices.Proofs.Course

/-!
# Refused requests

A request to the interface is checked before the service is asked for anything.
So a request that is refused leaves no trace, and without the key of the
administrator all guarded routes are closed.

* `Program.Ends` says what the values of a program are like,
  whatever it is answered.
* `Api.RefusesEarly` says of the program that answers a request that it
  refuses at once or not at all, and `Api.refusesEarly_answer` that
  this is so for all requests.
* `Api.HttpRequest.IsSound` says what a request has to bring for its route,
  and `Api.exchanges_ne_nil_iff` that the service is asked for something
  exactly if it is brought.
* `Api.refused_requests_leave_no_trace` is the statement about responses.
-/

namespace Notices

/-! ## Programs that ask for nothing -/

namespace Program

variable {α β : Type}

/-- Whether a program asks for nothing. -/
def isSettled : Program α → Bool
  | .ask _ _ => false
  | _ => true

/-- All values that a program can come to have a property. -/
def Ends (P : α → Prop) : Program α → Prop
  | .done a => P a
  | .failed _ => True
  | .ask _ next => ∀ answer, (next answer).Ends P

theorem ends_bind {P : β → Prop} {p : Program α} {k : α → Program β}
    (hk : ∀ a, (k a).Ends P) :
    (p >>= k).Ends P := by
  show (p.bind k).Ends P
  induction p with
  | done a => exact hk a
  | failed f => trivial
  | ask r next ih => exact ih

end Program

namespace World

variable {α : Type} {w : World}

/-- What a run comes to has the property that all values of its program have. -/
theorem ends_run {P : α → Prop} {p : Program α} (hp : p.Ends P)
    {s after : State} {a : α} (hrun : w.run p s = (.ok a, after)) : P a := by
  induction p generalizing s with
  | done b =>
      obtain rfl := Except.ok.inj (Prod.mk.inj hrun).1
      exact hp
  | failed f => cases (Prod.mk.inj hrun).1
  | ask r next ih => exact ih (w.answer s r).1 (hp (w.answer s r).1) hrun

/-- A run makes no requests exactly if its program asks for nothing. -/
theorem exchanges_eq_nil_iff (p : Program α) (s : State) :
    w.exchanges p s = [] ↔ p.isSettled = true := by
  cases p <;> simp [exchanges, Program.isSettled]

/-- A program that asks for nothing leaves the state as it is. -/
theorem after_run_of_isSettled {p : Program α} (hp : p.isSettled = true)
    (s : State) :
    (w.run p s).2 = s := by
  cases p with
  | done a => rfl
  | failed f => rfl
  | ask r next => cases hp

end World

namespace Api

/-! ## Refusals come first -/

/-- A program answers a request in such a way that it asks for nothing, or else
does not refuse the request. -/
def RefusesEarly (p : Program HttpResponse) : Prop :=
  p.isSettled = true ∨ p.Ends (·.isRefusal = false)

section Checks

variable {i : Interface} {r : HttpRequest}

theorem refusesEarly_refuse (document : Value) (faults : List Fault) :
    RefusesEarly (refuse document faults) := by
  unfold refuse
  split <;> exact Or.inl rfl

theorem RefusesEarly.afterRecord {α : Type} {k : α → Program HttpResponse}
    (hk : ∀ a, RefusesEarly (k a)) (read : FaultKind → Record.Reader α)
    (content : Content) :
    RefusesEarly (afterRecord read content k) := by
  unfold Api.afterRecord
  split
  · exact hk _
  · exact refusesEarly_refuse _ _

theorem RefusesEarly.afterLimit {k : Nat → Program HttpResponse}
    (hk : ∀ limit, RefusesEarly (k limit)) :
    RefusesEarly (afterLimit r k) := by
  unfold Api.afterLimit
  split
  · exact hk _
  · exact Or.inl rfl

theorem RefusesEarly.afterContent {k : Content → Program HttpResponse}
    (hk : ∀ content, RefusesEarly (k content)) :
    RefusesEarly (afterContent r k) := by
  unfold Api.afterContent
  split
  · exact hk _
  · exact Or.inl rfl

theorem RefusesEarly.afterKey {p : Program HttpResponse} (hp : RefusesEarly p) :
    RefusesEarly (afterKey i r p) := by
  unfold Api.afterKey
  split
  · exact hp
  · exact Or.inl rfl

/-- A program that ends by giving a document does not refuse. -/
theorem RefusesEarly.of_json {α : Type} (p : Program α) (document : α → Value) :
    RefusesEarly (p >>= fun a => pure (.json (document a))) :=
  Or.inr (Program.ends_bind fun _ => rfl)

theorem refusesEarly_answerTest (request : TestRequest) :
    RefusesEarly (answerTest request) := by
  unfold answerTest
  split
  · exact .of_json _ _
  · exact Or.inl rfl

theorem refusesEarly_answerRoute (route : Route) :
    RefusesEarly (answerRoute i r route) := by
  cases route with
  | health => exact Or.inl rfl
  | send =>
      refine .afterContent fun content =>
        .afterKey (.afterRecord (fun request => ?_) _ _)
      exact .of_json (dispatch request.trigger request.data request.options)
        (·.toResult.toValue)
  | test => exact .afterContent fun content =>
      .afterKey (.afterRecord refusesEarly_answerTest _ _)
  | status => exact .afterKey (.of_json _ StatusReport.toValue)
  | log =>
      exact .afterKey (.afterLimit fun limit => .of_json (recentLog limit) _)

/-- The program that answers a request refuses at once or not at all. -/
theorem refusesEarly_answer (i : Interface) (r : HttpRequest) :
    RefusesEarly (answer i r) := by
  unfold answer
  split
  · exact refusesEarly_answerRoute _
  · exact Or.inl rfl
  · exact Or.inl rfl
  · exact Or.inl rfl

end Checks

/-! ## What reaches the service -/

section Reach

variable {i : Interface} {r : HttpRequest}

/-- What a request brings for a route: a body that is read as what the
route asks for, or a limit in its bounds.  The state of the service is
given without asking it. -/
def HttpRequest.IsSound (r : HttpRequest) : Route → Prop
  | .health => False
  | .send => ∃ content request, readContent r = .ok content ∧
      readRecord DispatchRequest.read content = .ok request
  | .test => ∃ content request, readContent r = .ok content ∧
      readRecord TestRequest.read content = .ok request ∧
      (∃ templateId, request.templateId = some templateId ∧ templateId ≠ "") ∧
      ∃ recipient, request.recipient = some recipient ∧ recipient ≠ ""
  | .status => True
  | .log => ∃ limit, readLimit r = .ok limit ∧ 1 ≤ limit ∧ limit ≤ greatestLimit

theorem isSettled_refuse (document : Value) (faults : List Fault) :
    (refuse document faults).isSettled = true := by
  unfold refuse
  split <;> rfl

theorem isSettled_afterKey_iff {p : Program HttpResponse} :
    (afterKey i r p).isSettled = false ↔
      i.admits r = true ∧ p.isSettled = false := by
  unfold afterKey
  cases i.admits r <;> simp [Program.isSettled, pure]

theorem isSettled_afterContent_iff {k : Content → Program HttpResponse} :
    (afterContent r k).isSettled = false ↔
      ∃ content, readContent r = .ok content ∧
        (k content).isSettled = false := by
  unfold afterContent
  cases readContent r <;> simp [Program.isSettled, pure]

theorem isSettled_afterRecord_iff {α : Type}
    {read : FaultKind → Record.Reader α} {content : Content}
    {k : α → Program HttpResponse} :
    (afterRecord read content k).isSettled = false ↔
      ∃ a, readRecord read content = .ok a ∧ (k a).isSettled = false := by
  unfold afterRecord
  cases readRecord read content <;> simp [isSettled_refuse]

theorem isSettled_afterLimit_iff {k : Nat → Program HttpResponse} :
    (afterLimit r k).isSettled = false ↔
      ∃ limit, readLimit r = .ok limit ∧ (k limit).isSettled = false := by
  unfold afterLimit
  cases readLimit r <;> simp [Program.isSettled, pure]

/-- A text is left by the check of a test if it is there and not empty. -/
theorem filter_isEmpty_eq_some_iff {given : Option String} {text : String} :
    given.filter (!·.isEmpty) = some text ↔ given = some text ∧ text ≠ "" := by
  simp [Option.filter_eq_some_iff]

/-- A test is asked for if both its template and its recipient are named. -/
theorem isSettled_answerTest_iff {request : TestRequest} :
    (answerTest request).isSettled = false ↔
      (∃ templateId, request.templateId = some templateId ∧ templateId ≠ "") ∧
        ∃ recipient, request.recipient = some recipient ∧ recipient ≠ "" := by
  simp only [← filter_isEmpty_eq_some_iff]
  unfold answerTest
  cases request.templateId.filter (!·.isEmpty) with
  | none => simp [Program.isSettled, pure]
  | some templateId =>
      cases request.recipient.filter (!·.isEmpty) with
      | none => simp [Program.isSettled, pure]
      | some recipient =>
          exact iff_of_true rfl ⟨⟨templateId, rfl⟩, recipient, rfl⟩

/-- A limit that is read is in its bounds. -/
theorem bounds_of_readLimit {limit : Nat} (h : readLimit r = .ok limit) :
    1 ≤ limit ∧ limit ≤ greatestLimit := by
  unfold readLimit at h
  split at h
  · obtain rfl := Checked.ok.inj h
    decide
  · next text _ =>
    cases hread : Record.integerOfText text with
    | failed faults => simp [hread, Checked.andThen, Checked.under] at h
    | ok n =>
        simp only [hread, Checked.andThen] at h
        split at h
        · simp [Checked.fault, Checked.under] at h
        split at h
        · simp [Checked.fault, Checked.under] at h
        · obtain rfl := Checked.ok.inj h
          omega

/-- A route asks the service for something if a request has the key and brings
what the route asks for. -/
theorem isSettled_answerRoute_iff {route : Route} :
    (answerRoute i r route).isSettled = false ↔
      i.admits r = true ∧ r.IsSound route := by
  cases route with
  | health => simp [answerRoute, HttpRequest.IsSound, Program.isSettled, pure]
  | send =>
      have hsend : ∀ request, (answerSend request).isSettled = false :=
        fun _ => rfl
      simp only [answerRoute, isSettled_afterContent_iff,
        isSettled_afterKey_iff, isSettled_afterRecord_iff, hsend,
        HttpRequest.IsSound]
      grind
  | test =>
      simp only [answerRoute, isSettled_afterContent_iff,
        isSettled_afterKey_iff,
        isSettled_afterRecord_iff, isSettled_answerTest_iff,
          HttpRequest.IsSound]
      grind
  | status =>
      have hstatus : ∀ emailConfigured smsConfigured,
          (do return .json (← status emailConfigured smsConfigured).toValue :
            Program HttpResponse).isSettled = false := fun _ _ => rfl
      simp only [answerRoute, isSettled_afterKey_iff, hstatus,
        HttpRequest.IsSound]
  | log =>
      have hlog : ∀ limit,
          (do return .json (.list ((← recentLog limit).map LogEntry.toValue)) :
          Program HttpResponse).isSettled = false := fun _ => rfl
      simp only [answerRoute, isSettled_afterKey_iff, isSettled_afterLimit_iff,
        hlog, HttpRequest.IsSound, and_true]
      refine and_congr_right fun _ => exists_congr fun limit => ?_
      exact ⟨fun h => ⟨h, bounds_of_readLimit h⟩, fun h => h.1⟩

/-- A request makes the service ask for something if it leads to a route, has
the key and brings what the route asks for. -/
theorem isSettled_answer_iff :
    (answer i r).isSettled = false ↔
      ∃ route, r.destination = .route route ∧ i.admits r = true ∧
        r.IsSound route := by
  unfold answer
  cases r.destination with
  | route route => simp [isSettled_answerRoute_iff]
  | otherMethod route => simp [Program.isSettled, pure]
  | redirect => simp [Program.isSettled, pure]
  | nowhere => simp [Program.isSettled, pure]

end Reach

/-! ## Without the key -/

section Closed

variable {i : Interface} {r : HttpRequest}

/-- A body that cannot be read is answered by a refusal. -/
theorem isRefusal_of_readContent {response : HttpResponse}
    (h : readContent r = .error response) :
    response.isRefusal = true := by
  unfold readContent at h
  split at h
  · cases h
  split at h
  · split at h
    · cases h
    · obtain rfl := Except.error.inj h
      rfl
    · obtain rfl := Except.error.inj h
      rfl
  · cases h

/-- Without the key a guarded route refuses. -/
theorem answerRoute_of_not_admits (hkey : i.admits r = false) {route : Route}
    (hguarded : route.isGuarded = true) :
    ∃ response, answerRoute i r route = .done response ∧
      response.isRefusal = true := by
  have hclosed : ∀ p, afterKey i r p = .done unauthorized := by
    intro p
    rw [afterKey, hkey]
    rfl
  have hcontent : ∀ k : Content → Program HttpResponse,
      ∃ response, (afterContent r fun content => afterKey i r (k content)) =
        .done response ∧
        response.isRefusal = true := by
    intro k
    unfold afterContent
    cases hread : readContent r with
    | error response => exact ⟨response, rfl, isRefusal_of_readContent hread⟩
    | ok content => exact ⟨unauthorized, hclosed _, rfl⟩
  cases route with
  | health => cases hguarded
  | send => exact hcontent _
  | test => exact hcontent _
  | status => exact ⟨unauthorized, hclosed _, rfl⟩
  | log => exact ⟨unauthorized, hclosed _, rfl⟩

/-- A request does not have the key if there is one and the request has none or
another. -/
theorem admits_eq_false {key : String} (hset : i.adminKey = some key)
    (hkey : key ≠ "") (hother : r.header? "x-api-key" ≠ some key) :
    i.admits r = false := by
  simp [Interface.admits, hset, hkey, hother]

end Closed

/-! ## Responses -/

section Responses

variable {o : Origins} {i : Interface} {w : World} {r : HttpRequest} {s : State}

/-- What a request makes the service ask for, with the answers.  A preflight
does not reach the service. -/
def exchanges (o : Origins) (i : Interface) (w : World) (r : HttpRequest)
    (s : State) : List Exchange :=
  match o.preflight? r with
  | some _ => []
  | none => w.exchanges (answer i r) s

/-- A request for a route is no preflight. -/
theorem preflight_of_route {route : Route} (h : r.destination = .route route) :
    o.preflight? r = none := by
  have hmethod : r.method ≠ "OPTIONS" := by
    unfold HttpRequest.destination at h
    split at h
    · next found _ =>
      split at h
      · next hsame =>
        rw [hsame]
        cases found <;> decide
      · cases h
    · split at h <;> cases h
  unfold Origins.preflight?
  split <;> simp [hmethod]

theorem isRefusal_outgoing_mark (response : HttpResponse) :
    (outgoing r (o.mark r response)).isRefusal = response.isRefusal := by
  have hmark : (o.mark r response).isRefusal = response.isRefusal := by
    unfold Origins.mark
    split <;> rfl
  rw [← hmark]
  unfold outgoing
  split <;> rfl

/-- A request is answered by the response that its program comes to, or else
by an internal error. -/
theorem isRefusal_respond (hpreflight : o.preflight? r = none) :
    (respond o i w r s).1.isRefusal = true ↔
      ∃ response, (w.run (answer i r) s).1 = .ok response ∧
        response.isRefusal = true := by
  unfold respond
  rw [hpreflight]
  dsimp only
  rcases w.run (answer i r) s with ⟨result, after⟩
  cases result with
  | ok response => simp [isRefusal_outgoing_mark]
  | error f =>
      have hinternal : (outgoing r internalError).isRefusal = false := by
        unfold outgoing
        split <;> rfl
      simp [hinternal]

/-- What a request leaves is what its program leaves, unless it is a
preflight. -/
theorem after_respond (hpreflight : o.preflight? r = none) :
    (respond o i w r s).2 = (w.run (answer i r) s).2 := by
  unfold respond
  rw [hpreflight]
  dsimp only
  rcases w.run (answer i r) s with ⟨result, after⟩
  cases result <;> rfl

/-- A refused request asks for nothing and leaves the state as it is. -/
theorem quiet_of_isRefusal (h : (respond o i w r s).1.isRefusal = true) :
    exchanges o i w r s = [] ∧ (respond o i w r s).2 = s := by
  cases hpreflight : o.preflight? r with
  | some response => simp [exchanges, respond, hpreflight]
  | none =>
      obtain ⟨response, hrun, hrefusal⟩ := (isRefusal_respond hpreflight).mp h
      rcases refusesEarly_answer i r with hsettled | hends
      · simp only [exchanges, hpreflight, after_respond hpreflight]
        exact ⟨(World.exchanges_eq_nil_iff _ s).mpr hsettled,
          World.after_run_of_isSettled hsettled s⟩
      · have hnot :=
          World.ends_run hends
            (Prod.ext hrun rfl : w.run (answer i r) s = (.ok response, _))
        rw [hrefusal] at hnot
        cases hnot

/-- The service is asked for something exactly by a request that leads to a
route, has the key and brings what the route asks for. -/
theorem exchanges_ne_nil_iff :
    exchanges o i w r s ≠ [] ↔
      ∃ route, r.destination = .route route ∧ i.admits r = true ∧
        r.IsSound route := by
  cases hpreflight : o.preflight? r with
  | some response =>
      refine iff_of_false (by simp [exchanges, hpreflight]) ?_
      rintro ⟨route, hroute, -⟩
      rw [preflight_of_route hroute] at hpreflight
      cases hpreflight
  | none =>
      rw [← isSettled_answer_iff]
      simp [exchanges, hpreflight, World.exchanges_eq_nil_iff]

end Responses

/-- **Refused requests.**  Without the key of the administrator, if there is
one, a request for a guarded route is refused.  A request that is refused, for
whatever reason, makes the service ask for nothing: no mail, no text message, no
report of a trigger and no entry of the log, and the state stays as it is.  And
the service is asked for something exactly by a request that leads to a route,
has the key and brings what the route asks for. -/
theorem refused_requests_leave_no_trace (o : Origins) (i : Interface)
    (w : World) (r : HttpRequest) (s : State) :
    let response := (respond o i w r s).1
    (∀ route key, r.destination = .route route → route.isGuarded = true →
      i.adminKey = some key → key ≠ "" →
      r.header? "x-api-key" ≠ some key → response.isRefusal = true) ∧
    (response.isRefusal = true →
      exchanges o i w r s = [] ∧ (respond o i w r s).2 = s) ∧
    (exchanges o i w r s ≠ [] ↔
      ∃ route, r.destination = .route route ∧ i.admits r = true ∧
        r.IsSound route) := by
  intro response
  refine ⟨?_, quiet_of_isRefusal, exchanges_ne_nil_iff⟩
  intro route key hroute hguarded hset hkey hother
  obtain ⟨refusal, hanswer, hrefusal⟩ :=
    answerRoute_of_not_admits (admits_eq_false hset hkey hother) hguarded
  refine (isRefusal_respond (preflight_of_route hroute)).mpr
    ⟨refusal, ?_, hrefusal⟩
  have hprogram : answer i r = .done refusal := by
    rw [answer, hroute]
    exact hanswer
  rw [hprogram]
  rfl

/-- With a wrong key nobody sends a notice through the shop,
whatever the notice is. -/
theorem wrong_key_sends_nothing :
    let i : Interface :=
      { environment := "production", adminKey := some "secret",
        emailConfigured := true
        smsConfigured := true }
    let r : HttpRequest :=
      { method := "POST", target := "/api/notifications/send",
        headers :=
          [("Content-Type", "application/json"), ("X-API-Key", "guess")],
        body := "\x7b\"trigger\": \"invoice_ready\"\x7d" }
    r.destination = .route .send ∧ i.adminKey = some "secret" ∧
    r.header? "x-api-key" ≠ some "secret" ∧
    (respond .every i World.shop r {}).1.isRefusal = true ∧
    exchanges .every i World.shop r {} = [] ∧
    (respond .every i World.shop r {}).2 = {} := by
  intro i r
  have hroute : r.destination = .route .send := by decide +kernel
  have hother : r.header? "x-api-key" ≠ some "secret" := by decide +kernel
  obtain ⟨hclosed, hquiet, -⟩ :=
    refused_requests_leave_no_trace .every i World.shop r {}
  have hrefused := hclosed .send "secret" hroute rfl rfl (by decide) hother
  exact ⟨hroute, rfl, hother, hrefused, hquiet hrefused⟩

end Api

end Notices
