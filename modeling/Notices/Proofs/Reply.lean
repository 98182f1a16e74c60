import Notices.Sms.Client

/-!
# Replies of the SMS provider

The provider may answer a request with JSON of any shape.  Two fields of a reply
are taken over into the outcome of a message: the id, if the request was
granted, and the reason, if it was refused.  All that fails before becomes an
outcome itself, but a field that is taken over and is no text is a fault, and
then there is no outcome.

* `Account.IsAnswered` says that a request is made for a message and answered in
  JSON.
* `Misread` says which replies have a field that is taken over and is no text.
* `outcome_send_eq_failed_iff` says that these are the replies for
  which there is no outcome.
* `odd_fields_get_through` adds that a message is delivered if it is
  granted by any other reply.
-/

namespace Notices

/-- A text is no number exactly if it has less than ten digits. -/
theorem Phone.normalize?_eq_none_iff {s : List Char} :
    normalize? s = none ↔ (digits s).length < 10 := by
  unfold normalize?
  dsimp only
  split
  · next hten => simp [hten]
  · next hten =>
    split
    · next hmore => simp; omega
    · next hless => simp; omega

namespace Sms

/-! ## What is read of a reply -/

/-- A field of a reply is taken over and is no text: the id of a request that
was granted, or the reason of one that was refused, if that counts as given.
The last argument is the name under which the field is taken over. -/
inductive Misread : Int → Value → String → Prop
  | id {status : Int} {fields : Fields} {v : Value}
      (granted : isSuccess status = true)
      (there : fields.get? "sid" = some v) (given : v ≠ .null)
      (noText : ∀ s, v ≠ .string s) :
      Misread status (.object fields) "message_id"
  | reason {status : Int} {fields : Fields} {v : Value}
      (refused : isSuccess status = false)
      (there : fields.get? "message" = some v) (given : v.isTruthy = true)
      (noText : ∀ s, v ≠ .string s) :
      Misread status (.object fields) "error"

/-- What is read of a reply in JSON. -/
def outcomeBy (status : Int) (v : Value) : Checked Outcome :=
  if isSuccess status then acceptance v else refusal status v

/-- A reply has a field other than null if it is an object with that field. -/
theorem exists_of_replyField {v : Value} {name : String}
    (h : replyField v name ≠ .null) :
    ∃ fields, v = .object fields ∧
      Fields.get? fields name = some (replyField v name) := by
  cases v with
  | object fields =>
      refine ⟨fields, rfl, ?_⟩
      cases hthere : Fields.get? fields name with
      | none => simp [replyField, hthere] at h
      | some found => simp [replyField, hthere]
  | null | bool _ | int _ | real _ | string _ | time _ | list _ =>
      exact absurd rfl h

/-- A field that an object has is a field of the reply. -/
theorem replyField_object {fields : Fields} {name : String} {v : Value}
    (h : fields.get? name = some v) :
    replyField (.object fields) name = v := by
  simp [replyField, h]

/-- A text is read of a text and of nothing else. -/
theorem text_eq_fault {v : Value} (h : ∀ s, v ≠ .string s) :
    Record.text v = .fault .notText := by
  cases v with
  | string s => exact absurd rfl (h s)
  | null | bool _ | int _ | real _ | time _ | list _ | object _ => rfl

/-- A misread field of a reply is the fault for which nothing is made of it. -/
theorem outcomeBy_of_misread {status : Int} {v : Value} {name : String}
    (h : Misread status v name) :
    outcomeBy status v = .failed [⟨[.field name], .notText⟩] := by
  unfold outcomeBy
  cases h with
  | id hgranted hthere hgiven hno =>
      rw [if_pos hgranted, acceptance, replyField_object hthere,
        Record.nullable, text_eq_fault hno]
      · rfl
      · exact hgiven
  | reason hrefused hthere hgiven hno =>
      rw [hrefused, refusal, replyField_object hthere, if_pos hgiven,
        text_eq_fault hno]
      rfl

/-- A granted request is delivered, or its id is misread. -/
theorem acceptance_or_misread {status : Int}
    (hgranted : isSuccess status = true) (v : Value) :
    (∃ id, acceptance v = .ok (.delivered id)) ∨
      Misread status v "message_id" := by
  unfold acceptance
  by_cases hnull : replyField v "sid" = .null
  · rw [hnull]
    exact Or.inl ⟨none, rfl⟩
  · by_cases htext : ∃ s, replyField v "sid" = .string s
    · obtain ⟨s, hs⟩ := htext
      rw [hs]
      exact Or.inl ⟨some s, rfl⟩
    · obtain ⟨fields, rfl, hthere⟩ := exists_of_replyField hnull
      exact Or.inr (.id hgranted hthere hnull fun s hs => htext ⟨s, hs⟩)

/-- A refused request fails for a reason, or its reason is misread. -/
theorem refusal_or_misread {status : Int} (hrefused : isSuccess status = false)
    (v : Value) :
    (∃ cause, refusal status v = .ok (.failed cause)) ∨
      Misread status v "error" := by
  unfold refusal
  dsimp only
  by_cases hgiven : (replyField v "message").isTruthy = true
  · rw [if_pos hgiven]
    by_cases htext : ∃ s, replyField v "message" = .string s
    · obtain ⟨s, hs⟩ := htext
      rw [hs]
      exact Or.inl ⟨.refused s, rfl⟩
    · have hnull : replyField v "message" ≠ .null := by
        intro hnull
        rw [hnull] at hgiven
        cases hgiven
      obtain ⟨fields, rfl, hthere⟩ := exists_of_replyField hnull
      exact Or.inr (.reason hrefused hthere hgiven fun s hs => htext ⟨s, hs⟩)
  · rw [if_neg hgiven]
    exact Or.inl ⟨.refusedWithStatus status, rfl⟩

/-- Something is made of a reply, or a field of it is misread. -/
theorem outcomeBy_or_misread (status : Int) (v : Value) :
    (∃ outcome, outcomeBy status v = .ok outcome) ∨
      ∃ name, Misread status v name := by
  unfold outcomeBy
  cases hstatus : isSuccess status with
  | true =>
      rcases acceptance_or_misread hstatus v with ⟨id, hok⟩ | hmisread
      · exact Or.inl ⟨.delivered id, hok⟩
      · exact Or.inr ⟨_, hmisread⟩
  | false =>
      rcases refusal_or_misread hstatus v with ⟨cause, hok⟩ | hmisread
      · exact Or.inl ⟨.failed cause, hok⟩
      · exact Or.inr ⟨_, hmisread⟩

/-- A reply has a fault exactly if a field of it is misread. -/
theorem outcomeBy_eq_failed_iff {status : Int} {v : Value}
    {faults : List Fault} :
    outcomeBy status v = .failed faults ↔
      ∃ name, Misread status v name ∧ faults = [⟨[.field name], .notText⟩] := by
  constructor
  · intro h
    rcases outcomeBy_or_misread status v with ⟨outcome, hok⟩ | ⟨name, hmisread⟩
    · rw [hok] at h
      cases h
    · rw [outcomeBy_of_misread hmisread] at h
      exact ⟨name, hmisread, (Checked.failed.inj h).symm⟩
  · rintro ⟨name, hmisread, rfl⟩
    exact outcomeBy_of_misread hmisread

/-! ## What becomes of a message -/

namespace Account

/-- A message is answered in JSON: the account is configured, the destination is
a number, and a request is made for it at an absolute address, to which the
provider replies with a status and a text that is read as a value. -/
def IsAnswered (a : Account) (reply : Request → Reply)
    (destination body : String) (status : Int) (v : Value) : Prop :=
  ∃ number address text, a.isConfigured = true ∧
    Phone.normalize? destination.toList = some number ∧
    Url.Address.parse a.endpoint = .ok address ∧ address.isAbsolute = true ∧
    reply (a.requestAt address number body) = .answered status text ∧
      Json.read text = .ok v

variable {a : Account} {reply : Request → Reply} {destination body : String}

/-- A configured account makes a request for a message to a number, if its
base address can be read. -/
theorem send_of_parse {number : List Char} {address : Url.Address}
    (hconfigured : a.isConfigured = true)
    (hnumber : Phone.normalize? destination.toList = some number)
    (haddress : Url.Address.parse a.endpoint = .ok address) :
    a.send reply destination body =
      ⟨outcomeAt address (a.requestAt address number body)
        (reply (a.requestAt address number body)),
        some (a.requestAt address number body)⟩ := by
  unfold send
  simp [hconfigured, hnumber, haddress]

/-- What becomes of a message that is answered in JSON is what is read of the
reply. -/
theorem outcome_send_of_isAnswered {status : Int} {v : Value}
    (h : a.IsAnswered reply destination body status v) :
    (a.send reply destination body).outcome = outcomeBy status v := by
  obtain ⟨number, address, text, hconfigured, hnumber, haddress, habsolute,
    hreply, hread⟩ := h
  rw [send_of_parse hconfigured hnumber haddress, hreply]
  simp only [outcomeAt, habsolute, if_true, outcomeOf, hread]
  rfl

/-- A message comes to an outcome unless it is answered in JSON. -/
theorem outcome_send_or_isAnswered (a : Account) (reply : Request → Reply)
    (destination body : String) :
    (∃ outcome, (a.send reply destination body).outcome = .ok outcome) ∨
      ∃ status v, a.IsAnswered reply destination body status v := by
  cases hconfigured : a.isConfigured with
  | false =>
      exact Or.inl ⟨.failed .smsNotConfigured, by simp [send, hconfigured]⟩
  | true =>
      cases hnumber : Phone.normalize? destination.toList with
      | none =>
          exact Or.inl ⟨.failed .badNumber, by
            simp [send, hconfigured, hnumber]⟩
      | some number =>
          cases haddress : Url.Address.parse a.endpoint with
          | error p =>
              exact Or.inl ⟨.failed (.badUrl p), by
                simp [send, hconfigured, hnumber, haddress]⟩
          | ok address =>
              rw [send_of_parse hconfigured hnumber haddress]
              cases hreply : reply (a.requestAt address number body) with
              | raised f => exact Or.inl ⟨.failed (.raised f), rfl⟩
              | answered status text =>
                  cases habsolute : address.isAbsolute with
                  | false =>
                      exact Or.inl
                        ⟨.failed
                          (.relativeUrl
                            (a.requestAt address number body).url), by
                        simp [outcomeAt, habsolute]⟩
                  | true =>
                      cases hread : Json.read text with
                      | error r =>
                          exact Or.inl ⟨.failed (.replyNotJson r), by
                            simp [outcomeAt, habsolute, outcomeOf, hread]⟩
                      | ok v =>
                          exact Or.inr ⟨status, v, number, address, text,
                            hconfigured, hnumber, haddress, habsolute, hreply,
                            hread⟩

/-- A message comes to no outcome exactly if a field of its reply is misread,
and that is the fault. -/
theorem outcome_send_eq_failed_iff {faults : List Fault} :
    (a.send reply destination body).outcome = .failed faults ↔
      ∃ status v name, a.IsAnswered reply destination body status v ∧
        Misread status v name ∧
        faults = [⟨[.field name], .notText⟩] := by
  constructor
  · intro h
    rcases a.outcome_send_or_isAnswered reply destination body with
      ⟨outcome, hok⟩ | ⟨status, v, hanswered⟩
    · rw [hok] at h
      cases h
    · rw [outcome_send_of_isAnswered hanswered] at h
      obtain ⟨name, hmisread⟩ := outcomeBy_eq_failed_iff.mp h
      exact ⟨status, v, name, hanswered, hmisread⟩
  · rintro ⟨status, v, name, hanswered, hmisread, rfl⟩
    rw [outcome_send_of_isAnswered hanswered, outcomeBy_of_misread hmisread]

end Account

/-- **Odd fields.**  For a message to a number a configured account makes a
request, and whatever the provider does the message comes to an outcome, except
if it replies in JSON with an id or a reason that is no text.  A message is
delivered if it is granted in JSON without such an id. -/
theorem odd_fields_get_through (a : Account) (reply : Request → Reply)
    (destination body : String) :
    let sent := a.send reply destination body
    (∀ address, a.isConfigured = true →
      10 ≤ (Phone.digits destination.toList).length →
      Url.Address.parse a.endpoint = .ok address →
      ∃ number, Phone.normalize? destination.toList = some number ∧
        sent.request = some (a.requestAt address number body)) ∧
    ((∃ outcome, sent.outcome = .ok outcome) ↔
      ∀ status v name, a.IsAnswered reply destination body status v →
        ¬ Misread status v name) ∧
    (∀ faults, sent.outcome = .failed faults ↔
      ∃ status v name, a.IsAnswered reply destination body status v ∧
        Misread status v name ∧
        faults = [⟨[.field name], .notText⟩]) ∧
    ∀ status v, a.IsAnswered reply destination body status v →
      isSuccess status = true →
      ¬ Misread status v "message_id" →
        ∃ id, sent.outcome = .ok (.delivered id) := by
  intro sent
  refine ⟨?_, ?_, fun faults => Account.outcome_send_eq_failed_iff, ?_⟩
  · intro address hconfigured hdigits haddress
    have hsome : Phone.normalize? destination.toList ≠ none := by
      rw [ne_eq, Phone.normalize?_eq_none_iff]
      omega
    obtain ⟨number, hnumber⟩ := Option.ne_none_iff_exists'.mp hsome
    refine ⟨number, hnumber, ?_⟩
    simp only [sent, Account.send_of_parse hconfigured hnumber haddress]
  · constructor
    · rintro ⟨outcome, hok⟩ status v name hanswered hmisread
      have hfailed :=
        Account.outcome_send_eq_failed_iff.mpr
          ⟨status, v, name, hanswered, hmisread, rfl⟩
      have hboth := hok.symm.trans hfailed
      cases hboth
    · intro hnone
      cases houtcome : sent.outcome with
      | ok outcome => exact ⟨outcome, rfl⟩
      | failed faults =>
          obtain ⟨status, v, name, hanswered, hmisread, -⟩ :=
            Account.outcome_send_eq_failed_iff.mp houtcome
          exact absurd hmisread (hnone status v name hanswered)
  · intro status v hanswered hgranted hid
    simp only [sent, Account.outcome_send_of_isAnswered hanswered, outcomeBy,
      if_pos hgranted]
    rcases acceptance_or_misread hgranted v with hdelivered | hmisread
    · exact hdelivered
    · exact absurd hmisread hid

/-- A message that is granted by a reply whose id is a number comes to no
outcome. -/
theorem id_that_is_a_number_gets_through :
    let a : Account :=
      { sid := some "AC123", token := some "token",
        number := some "+15550000000"
        baseUrl := "https://api.twilio.com" }
    let reply : Request → Reply := fun _ => .answered 201 "\x7b\"sid\": 5\x7d"
    let sent := a.send reply "5551234567" "Hi"
    a.isConfigured = true ∧ (Phone.digits "5551234567".toList).length = 10 ∧
      sent.request.isSome = true ∧
      isSuccess 201 = true ∧ (∃ v, Json.read "\x7b\"sid\": 5\x7d" = .ok v) ∧
      sent.outcome = .failed [⟨[.field "message_id"], .notText⟩] := by
  intro a reply sent
  have hread : (Json.read "\x7b\"sid\": 5\x7d").toOption.isSome = true := by
    decide +kernel
  have hfaults : sent.outcome.faults = [⟨[.field "message_id"], .notText⟩] := by
    decide +kernel
  refine ⟨rfl, rfl, by decide +kernel, rfl, ?_, ?_⟩
  · cases hvalue : Json.read "\x7b\"sid\": 5\x7d" with
    | ok v => exact ⟨v, rfl⟩
    | error r =>
        rw [hvalue] at hread
        cases hread
  · cases houtcome : sent.outcome with
    | ok outcome =>
        rw [houtcome] at hfaults
        cases hfaults
    | failed faults =>
        rw [houtcome] at hfaults
        exact congrArg Checked.failed hfaults

end Sms

end Notices
