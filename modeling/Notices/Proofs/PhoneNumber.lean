import Notices.Proofs.Client

/-!
# Telephone numbers

A telephone number is normalised by its decimal digits alone.  They are kept as
they are, and what is put in front of them depends on how many there are.

* `Phone.Form` gives the rules for the international form, two of which overlap.
* `Phone.IsNumber` says what has that form.  What is normalised has it, and
  is normalised to itself.
* `numbers_go_by_their_digits` says what a value is normalised to, and
  that this is a projection.
* `World.destinations_run` says that whatever runs, its requests go to the
  numbers that are dialled for its letters.
* `numbers_keep_the_script_of_their_digits` says for which numbers the
  digits are ASCII digits.
-/

namespace Notices

namespace Phone

variable {s n : List Char}

/-! ## The international form -/

/-- How the digits of a number are brought into its international form.  Eleven
digits that begin with the code 1 fall under two rules. -/
inductive Form (ds : List Char) : List Char → Prop
  | ten (h : ds.length = 10) : Form ds ('+' :: '1' :: ds)
  | eleven (h : ds.length = 11)
      (hone : ds.head? = some '1') : Form ds ('+' :: ds)
  | more (h : 10 < ds.length) : Form ds ('+' :: ds)

/-- A text is normalised to the form of its digits. -/
theorem normalize?_eq_some_iff : normalize? s = some n ↔ Form (digits s) n := by
  constructor
  · intro h
    unfold normalize? at h
    dsimp only at h
    split at h
    · next hten =>
      obtain rfl := Option.some.inj h
      exact .ten hten
    · split at h
      · next hmore =>
        obtain rfl := Option.some.inj h
        exact .more hmore
      · cases h
  · intro h
    cases h with
    | ten h => simp [normalize?, h]
    | eleven h hone => simp [normalize?, h]
    | more h => simp [normalize?, h, Nat.ne_of_gt h]

/-- A text with ten digits or more is normalised to a plus and its digits, with
the code 1 between them if there are ten. -/
theorem normalize?_of_le (h : 10 ≤ (digits s).length) :
    normalize? s =
      some ('+' :: if (digits s).length = 10 then '1' :: digits s
        else digits s) := by
  rw [normalize?_eq_some_iff]
  split
  · next hten => exact .ten hten
  · next hten => exact .more (by omega)

/-- A number in international form: a plus, and behind it eleven
decimal digits or more. -/
def IsNumber (n : List Char) : Prop :=
  ∃ ds, n = '+' :: ds ∧ (∀ c ∈ ds, Text.isDecimalDigit c = true) ∧
    11 ≤ ds.length

/-- What a text is normalised to is a number in international form. -/
theorem isNumber_of_normalize? (h : normalize? s = some n) : IsNumber n := by
  have hdigits : ∀ c ∈ digits s, Text.isDecimalDigit c = true :=
    fun c hc => (List.mem_filter.mp hc).2
  cases normalize?_eq_some_iff.mp h with
  | ten hten =>
      refine ⟨_, rfl, ?_, by simp [hten]⟩
      intro c hc
      rcases List.mem_cons.mp hc with rfl | hrest
      · decide
      · exact hdigits c hrest
  | eleven heleven hone => exact ⟨_, rfl, hdigits, Nat.le_of_eq heleven.symm⟩
  | more hmore => exact ⟨_, rfl, hdigits, hmore⟩

/-- A number in international form is normalised to itself. -/
theorem IsNumber.normalize? (h : IsNumber n) : normalize? n = some n := by
  obtain ⟨ds, rfl, hdigits, hlength⟩ := h
  have hkept : digits ('+' :: ds) = ds := by
    have hplus : Text.isDecimalDigit '+' = false := by decide
    rw [digits, List.filter_cons_of_neg (by simp [hplus]),
      List.filter_eq_self.mpr hdigits]
  rw [normalize?_eq_some_iff, hkept]
  exact .more hlength

/-- A value that does not count as given is spelled with less than ten
digits. -/
theorem length_digits_spell_lt {v : Value} (h : v.isTruthy = false) :
    (digits v.spell).length < 10 := by
  cases v with
  | null => decide
  | bool b =>
      obtain rfl : b = false := h
      decide
  | int n =>
      obtain rfl : n = 0 := by simpa [Value.isTruthy] using h
      decide
  | real x =>
      cases x with
      | finite negative m e =>
          obtain rfl : m = 0 := by
            simpa [Value.isTruthy, Binary64.isZero] using h
          show (digits
              ((if negative then ['-'] else []) ++ "0.0".toList)).length < 10
          cases negative <;> decide
      | infinite negative => cases h
      | nan => cases h
  | string s =>
      obtain rfl : s = "" := by simpa [Value.isTruthy] using h
      decide
  | time t => cases h
  | list items =>
      obtain rfl : items = [] := by simpa [Value.isTruthy] using h
      decide
  | object fields =>
      obtain rfl : fields = [] := by simpa [Value.isTruthy] using h
      decide

/-- A value is normalised as it is spelled, whether it counts as given or
not. -/
theorem normalize?_textOf (v : Value) :
    normalize? (textOf v) = normalize? v.spell := by
  unfold textOf
  split
  · rfl
  · next hnot =>
    have hnone : normalize? v.spell = none :=
      normalize?_eq_none_iff.mpr (length_digits_spell_lt (by simpa using hnot))
    rw [hnone]
    rfl

end Phone

namespace Phone

variable {s n : List Char}

/-- A number in the alphabet of E.164: a plus, and behind it ASCII digits. -/
def IsE164 (n : List Char) : Prop :=
  ∃ ds, n = '+' :: ds ∧ ∀ c ∈ ds, c.isDigit = true

/-- A number has ASCII digits exactly if the decimal digits of what it is
normalised from are ASCII. -/
theorem isE164_iff (h : normalize? s = some n) :
    IsE164 n ↔ ∀ c ∈ s, Text.isDecimalDigit c = true → c.isDigit = true := by
  have hiff : IsE164 n ↔ ∀ c ∈ digits s, c.isDigit = true := by
    cases normalize?_eq_some_iff.mp h with
    | ten hten =>
        have hone : ('1' : Char).isDigit = true := rfl
        simp [IsE164, hone]
    | eleven heleven hone => simp [IsE164]
    | more hmore => simp [IsE164]
  rw [hiff]
  simp [digits]

end Phone

/-! ## The destinations of requests -/

namespace Sms

/-- The destination of a request, as its form names it. -/
def Request.destination (r : Request) : String := (r.form.lookup "To").getD ""

/-- Whether an account can make requests: it is configured, and its address can
be read. -/
def Account.canPost (a : Account) : Bool :=
  a.isConfigured && (Url.Address.parse a.endpoint).isOk

/-- The destination of the request that an account makes for a message is the
number of the recipient. -/
theorem Account.destination_of_send (a : Account) (reply : Request → Reply)
    (recipient body : String) :
    (a.send reply recipient body).request.map Request.destination =
      if a.canPost then (Phone.normalize? recipient.toList).map String.ofList
        else none := by
  unfold send canPost
  cases a.isConfigured with
  | false => rfl
  | true =>
      cases Phone.normalize? recipient.toList with
      | none => simp
      | some number => cases Url.Address.parse a.endpoint <;> rfl

end Sms

/-- The destination of an event, if it is that a request was made. -/
def Event.destination? : Event → Option String
  | .requested request => some request.destination
  | _ => none

/-- The destinations of the requests that have left the service, in their
order. -/
def State.destinations (s : State) : List String :=
  s.events.filterMap Event.destination?

namespace World

variable {α : Type}

/-- The number for which a request is made when the SMS client is handed a
letter to a recipient, if one is made. -/
def dial? (w : World) (recipient : String) : Option String :=
  if (w.faults .sms).isNone && w.sms.canPost then
    (Phone.normalize? recipient.toList).map String.ofList else none

/-- What is dialled is the number of the recipient. -/
theorem normalize?_of_dial? {w : World} {recipient number : String}
    (h : w.dial? recipient = some number) :
    Phone.normalize? recipient.toList = some number.toList := by
  unfold dial? at h
  split at h
  · obtain ⟨n, hn, rfl⟩ := Option.map_eq_some_iff.mp h
    rw [hn, String.toList_ofList]
  · cases h

/-- The number that is dialled for a request to a collaborator. -/
def dialled? (w : World) : Request → Option String
  | .sms recipient _ => w.dial? recipient
  | _ => none

/-- An answer adds the destination that is dialled for it. -/
theorem destinations_answer (w : World) (s : State) (r : Request) :
    (w.answer s r).2.destinations = s.destinations ++
      (w.dialled? r).toList := by
  unfold answer
  split
  · next f hfails =>
    have hnobody : w.dialled? r = none := by
      cases r with
      | sms recipient body =>
          have hclient : w.faults .sms = some f := hfails
          simp [dialled?, dial?, hclient]
      | settings | template _ _ | templateById _ | email _ | record _
      | unknownTrigger _ | recent _ | now => rfl
    rw [hnobody]
    exact (List.append_nil _).symm
  · next hworks =>
    cases r with
    | settings | template _ _ | templateById _ | recent _ | now =>
        exact (List.append_nil _).symm
    | email mail =>
        simp only [serve]
        rw [sendEmail_eq]
        simp [State.destinations, Function.comp_def, Event.destination?,
          dialled?]
    | record attempt =>
        simp only [serve, record_after]
        simp [State.destinations, Function.comp_def, Event.destination?,
          dialled?]
    | unknownTrigger trigger =>
        simp only [serve, reportUnknown]
        cases w.hook <;>
          simp [State.destinations, State.put, Event.destination?, dialled?]
    | sms recipient body =>
        have hclient : w.faults .sms = none := hworks
        have hdestination :=
          w.sms.destination_of_send (w.smsProvider s.requests) recipient body
        simp only [serve]
        rw [sendSms_eq]
        simp only [dialled?, dial?, hclient, Option.isNone_none, Bool.true_and,
          ← hdestination]
        cases (w.sms.send (w.smsProvider s.requests) recipient
          body).request with
        | none => simp [State.destinations]
        | some request => simp [State.destinations, Event.destination?]

/-- Whatever runs, its requests go to the numbers that are dialled for its
letters, in their order. -/
theorem destinations_run (w : World) (p : Program α) (s : State) :
    (w.run p s).2.destinations =
      s.destinations ++ ((w.course p s).callsOn .sms).filterMap fun call =>
        w.dial? call.letter.recipient := by
  induction p generalizing s with
  | done a => exact (List.append_nil _).symm
  | failed f => exact (List.append_nil _).symm
  | ask r next ih =>
      have hcalls : ((w.course (.ask r next) s).callsOn .sms).filterMap
          (fun call => w.dial? call.letter.recipient) =
          (w.dialled? r).toList ++
            ((w.course (next (w.answer s r).1) (w.answer s r).2).callsOn
              .sms).filterMap
            fun call => w.dial? call.letter.recipient := by
        rw [course_ask]
        cases r with
        | sms recipient body =>
            cases hdial : w.dial? recipient <;>
              simp [Course.callsOn, Course.calls, Exchange.clientCall?,
                Letter.channel, Letter.recipient, dialled?, hdial]
        | email mail =>
            simp [Course.callsOn, Course.calls, Exchange.clientCall?,
              Letter.channel, dialled?]
        | settings | template _ _ | templateById _ | record _
        | unknownTrigger _ | recent _ | now => rfl
      rw [hcalls, ← List.append_assoc, ← destinations_answer]
      exact ih (w.answer s r).1 (w.answer s r).2

end World

/-- **Digits keep their script.**  What is typed is normalised, if at all, to a
plus with eleven decimal digits or more behind it.  These are ASCII digits
exactly if the decimal digits of what is typed are.  Whatever runs, its requests
go to the numbers that are dialled for the recipients of its letters, and so to
ASCII digits exactly where a recipient was typed in these. -/
theorem numbers_keep_the_script_of_their_digits (typed : String) :
    (∀ n, Phone.normalize? typed.toList = some n → Phone.IsNumber n ∧
      (Phone.IsE164 n ↔
        ∀ c ∈ typed.toList, Text.isDecimalDigit c = true → c.isDigit = true)) ∧
    ∀ (w : World) (α : Type) (p : Program α) (s : State),
      let recipients := ((w.course p s).callsOn .sms).map (·.letter.recipient)
      (w.run p s).2.destinations = s.destinations ++
        recipients.filterMap w.dial? ∧
      ∀ number, w.dial? typed = some number →
        Phone.normalize? typed.toList = some number.toList ∧
        (Phone.IsE164 number.toList ↔
          ∀ c ∈ typed.toList, Text.isDecimalDigit c = true →
            c.isDigit = true) := by
  refine ⟨fun n h => ⟨Phone.isNumber_of_normalize? h, Phone.isE164_iff h⟩, ?_⟩
  intro w α p s recipients
  refine ⟨?_, ?_⟩
  · rw [w.destinations_run p s, List.filterMap_map]
    rfl
  · intro number hdial
    have hnumber := World.normalize?_of_dial? hdial
    exact ⟨hnumber, Phone.isE164_iff hnumber⟩

/-- A customer whose number is typed in full-width digits is sent a message to
full-width digits, which are not ASCII. -/
theorem full_width_number_is_not_ascii :
    let typed := "\uff15\uff15\uff15\uff11\uff12\uff13\uff14\uff15\uff16\uff17"
    let number := '+' :: '1' :: typed.toList
    let data : NoticeData := ⟨[("customer_phone", .string typed)]⟩
    Phone.normalize? typed.toList = some number ∧ ¬ Phone.IsE164 number ∧
      (World.shop.run (dispatch "invoice_ready" data {}) {}).2.destinations =
        [String.ofList number] := by
  intro typed number data
  have hnumber : Phone.normalize? typed.toList = some number := by
    decide +kernel
  refine ⟨hnumber, ?_, by decide +kernel⟩
  rw [Phone.isE164_iff hnumber]
  intro hall
  have hfive : ('\uff15' : Char).isDigit = true :=
    hall '\uff15' (by decide) (by decide)
  cases hfive

end Notices
