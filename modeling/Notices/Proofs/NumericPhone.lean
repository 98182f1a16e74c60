import Notices.Proofs.Gate
import Notices.Proofs.PhoneNumber
import Notices.Proofs.WholeNumber

/-!
# Telephone numbers that are numbers

The data of a notice may give a telephone number as a number.  It is taken over
as it is, and dialled as it is spelled.  A whole number with a fraction of zero
is spelled with that zero, which is one more digit to dial.

* `NoticeData.read_set` says that a known field is taken over with the value
  that it is given, and that the others stay as they were.
* `World.dispatch_dials` says that the number of a customer decides where a
  dispatch sends to, but not whether.
* `fractions_make_other_numbers` says what this means for a whole number in
  the two ways to write it.
-/

namespace Notices

/-! ## The number in the data -/

namespace Fields

/-- Behind fields that have a name, further ones are not read for it. -/
theorem get?_append {fields : Fields} {name : String} {v : Value}
    (h : fields.get? name = some v) (more : Fields) :
    get? (fields ++ more) name = some v := by
  induction fields with
  | nil => cases h
  | cons field rest ih =>
      by_cases hname : field.1 = name
      · simpa [get?, hname] using h
      · simpa [get?, hname] using ih (by simpa [get?, hname] using h)

/-- A field that passes a test is read among the fields that pass it. -/
theorem get?_filter_of_pos {fields : Fields} {name : String} {v : Value}
    (h : fields.get? name = some v) {test : String × Value → Bool}
    (hpass : test (name, v) = true) :
    get? (fields.filter test) name = some v := by
  induction fields with
  | nil => cases h
  | cons field rest ih =>
      obtain ⟨key, value⟩ := field
      by_cases hname : key = name
      · obtain rfl : value = v := by simpa [get?, hname] using h
        simp [hname, hpass, get?]
      · have hrest := ih (by simpa [get?, hname] using h)
        by_cases htest : test (key, value) = true
        · simpa [htest, get?, hname] using hrest
        · simpa [htest] using hrest

/-- The first field with a name is the one that is read for it. -/
theorem get?_eq_head? (fields : Fields) (name : String) :
    fields.get? name =
      ((fields.filter fun field => field.1 = name).head?).map (·.2) := by
  induction fields with
  | nil => rfl
  | cons field rest ih =>
      by_cases hname : field.1 = name
      · simp [get?, hname]
      · simpa [get?, hname] using ih

/-- What is read for a name among the fields that pass a test depends on the
fields with that name alone. -/
theorem get?_filter_congr {fields other : Fields} {name : String}
    (test : String × Value → Bool)
    (h : (fields.filter fun field => field.1 = name) = other.filter fun field =>
      field.1 = name) :
    get? (fields.filter test) name = get? (other.filter test) name := by
  have hswap : ∀ some : Fields,
      ((some.filter test).filter fun field => field.1 = name) =
      (some.filter fun field => field.1 = name).filter test := by
    intro some
    rw [List.filter_filter, List.filter_filter]
    exact List.filter_congr fun field _ => Bool.and_comm ..
  rw [get?_eq_head?, get?_eq_head?, hswap, hswap, h]

/-- Setting a field does not change the fields of other names. -/
theorem filter_set (test : String → Bool) {name : String}
    (htest : test name = false) (fields : Fields) (v : Value) :
    ((fields.set name v).filter fun field => test field.1) =
      fields.filter fun field => test field.1 := by
  induction fields with
  | nil => simp [set, htest]
  | cons field rest ih =>
      by_cases hname : field.1 = name
      · have hfield : test field.1 = false := hname ▸ htest
        simp [set, hname, htest]
      · simp only [set, hname, if_false, List.filter_cons, ih]

end Fields

namespace NoticeData

variable {fields : Fields} {v : Value}

/-- If known fields can be read, they still can with one of them set to another
value, and that is what it reads as.  The others read as before. -/
theorem readKnown_set (hv : Record.scalar v = .ok v) (name : String)
    {names : List String} {known : Fields}
    (h : readKnown fields names = .ok known) :
    ∃ found, readKnown (fields.set name v) names = .ok found ∧
      (name ∈ names → found.get? name = some v) ∧
      ∀ other, other ≠ name → (found.filter fun field => field.1 = other) =
        known.filter fun field => field.1 = other := by
  induction names generalizing known with
  | nil =>
      obtain rfl := Checked.ok.inj h
      exact ⟨[], rfl, nofun, fun _ _ => rfl⟩
  | cons first rest ih =>
      simp only [readKnown, Checked.seq_eq_ok_iff, Checked.map_eq_ok_iff] at h
      obtain ⟨_, ⟨value, hfirst, rfl⟩, others, hrest, rfl⟩ := h
      obtain ⟨found, hfound, hreads, hkept⟩ := ih hrest
      by_cases hname : first = name
      · refine ⟨(first, v) :: found, ?_, fun _ => by
          simp [Fields.get?, hname], fun other hother => ?_⟩
        · have hset : Record.withDefault (fields.set name v) first .null
              Record.scalar = .ok v := by
            simp [Record.withDefault, hname, Fields.get?_set_self, hv]
          rw [readKnown, hset, hfound]
          rfl
        · have hne : first ≠ other := fun heq => hother (heq.symm.trans hname)
          simp [hne, hkept other hother]
      · refine ⟨(first, value) :: found, ?_, ?_, fun other hother => ?_⟩
        · have hset : Record.withDefault (fields.set name v) first .null
              Record.scalar = .ok value := by
            rw [← hfirst, Record.withDefault, Record.withDefault,
              Fields.get?_set_other fields v hname]
          rw [readKnown, hset, hfound]
          rfl
        · intro hmem
          simpa [Fields.get?, hname]
            using hreads (by simpa [Ne.symm hname] using hmem)
        · simp only [List.filter_cons, hkept other hother]

/-- Data whose fields are accepted is accepted with a known field set
to a value, and a template sees that value.  Of the other fields it
sees what it saw before. -/
theorem read_set {otherwise : FaultKind} {data : NoticeData}
    (h : read otherwise (.object fields) = .ok data) {name : String}
    (hname : name ∈ knownNames) (hv : Record.scalar v = .ok v)
    (hthere : isNull v = false) :
    ∃ more, read otherwise (.object (fields.set name v)) = .ok more ∧
      more.context.get? name = some v ∧
      ∀ other, other ≠ name →
        more.context.get? other = data.context.get? other := by
  obtain ⟨known, hknown, rfl⟩ : ∃ known,
    readKnown fields knownNames = .ok known ∧
      (⟨known ++ fields.filter fun field => !knownNames.contains field.1⟩ :
        NoticeData) = data := by
    rw [read, Record.fieldsOf, Checked.andThen] at h
    cases hread : readKnown fields knownNames with
    | ok known =>
        rw [hread] at h
        exact ⟨known, rfl, Checked.ok.inj h⟩
    | failed faults =>
        rw [hread] at h
        cases h
  obtain ⟨found, hfound, hreads, hkept⟩ := readKnown_set hv name hknown
  refine ⟨_, by
    rw [read, Record.fieldsOf, Checked.andThen, hfound]; rfl, ?_,
    fun other hother => ?_⟩
  · exact Fields.get?_filter_of_pos (Fields.get?_append (hreads hname) _)
      (by simp [hthere])
  · apply Fields.get?_filter_congr
    have hfurther := Fields.filter_set (fun field => !knownNames.contains field)
      (by simpa using hname) fields v
    rw [List.filter_append, List.filter_append, hkept other hother, hfurther]

end NoticeData

/-! ## The number that is dialled -/

section Dialling

variable {w : World} {trigger : String} {options : SendOptions}

/-- The gates but the last one do not depend on the data. -/
theorem Gate.isOpen_of_data {channel : Channel} {data more : NoticeData}
    {gate : Gate} (h : gate.IsOpen w channel trigger data options)
    (hgate : gate ≠ .recipient) :
    gate.IsOpen w channel trigger more options := by
  cases gate with
  | settings | trigger | channel | template => exact h
  | recipient => exact absurd rfl hgate

/-- The body of a text message can be filled in with data. -/
def World.CanFill (w : World) (trigger : String) (context : Fields) : Prop :=
  ∀ template, w.HasTemplate .sms trigger template →
    template.IsFillable .sms context

/-- Unless a number is forced, a dispatch sends to the number that the data
gives, as it is spelled.  Whether it sends at all does not depend on this
number, if that can be written. -/
theorem World.dispatch_dials (hsettings : w.faults .settings = none)
    (htemplate : w.faults .template = none)
    (hfree : ∀ s, options.forcePhone = some s → s = "") :
    ∃ sends : Prop, ∀ (data : NoticeData) (v : Value) (s : State),
      data.context.get? "customer_phone" = some v → v.isTruthy = true →
      v.isWritable = true →
      let sent := (w.run (dispatch trigger data options) s).2.destinations
      (sends ∧ w.CanFill trigger data.context →
        sent = s.destinations ++ (w.dial? (String.ofList v.spell)).toList) ∧
      (¬ (sends ∧ w.CanFill trigger data.context) → sent = s.destinations) := by
  -- It sends if the gates before the recipient are open, and any
  -- data will do to say so.
  refine ⟨∀ gate : Gate, gate ≠ .recipient →
    gate.IsOpen w .sms trigger .empty options, ?_⟩
  intro data v s hphone htruthy hshort sent
  have hnamed : Addressee (Channel.sms.forced options) data.context
      Channel.sms.contactField v :=
    .named hfree hphone htruthy
  have hsent : sent = s.destinations ++
      ((w.course (dispatch trigger data options) s).callsOn .sms).filterMap
      fun call => w.dial? call.letter.recipient := w.destinations_run _ s
  have hrecipient : ∀ recipient,
      Addressee (Channel.sms.forced options) data.context
      Channel.sms.contactField recipient → recipient = v := by
    intro recipient haddressee
    rw [← Dispatch.recipient?_eq_some_iff] at haddressee hnamed
    exact Option.some.inj (haddressee.symm.trans hnamed)
  have hwritten : CanBeWritten w .sms trigger data options ↔
      w.CanFill trigger data.context := by
    constructor
    · intro h template hhas
      exact (h template v hhas hnamed).2
    · intro h template recipient hhas haddressee
      rw [hrecipient recipient haddressee]
      exact ⟨hshort, h template hhas⟩
  rcases @dispatch_sends_or_stops w .sms trigger data options hsettings
    htemplate s with
    ⟨hopen, hfill, settings, template, recipient, answer, -, -, haddressee,
      hcalls⟩ |
      ⟨-, hlong, hcalls, -⟩ | ⟨gate, hclosed, hcalls, -⟩
  · have hto :
        (template.letter .sms id settings data.context
          (String.ofList recipient.spell)).recipient =
        String.ofList v.spell := by
      rw [hrecipient recipient haddressee]
      rfl
    constructor
    · intro _
      rw [hsent, hcalls, List.filterMap_cons, List.filterMap_nil, hto]
      cases w.dial? (String.ofList v.spell) <;> rfl
    · intro hstops
      exact absurd ⟨fun gate hgate => Gate.isOpen_of_data (hopen gate) hgate,
        hwritten.mp hfill⟩ hstops
  · refine ⟨fun h => absurd (hwritten.mpr h.2) hlong, fun _ => ?_⟩
    rw [hsent, hcalls, List.filterMap_nil, List.append_nil]
  · refine ⟨fun h => ?_, fun _ => ?_⟩
    · by_cases hgate : gate = .recipient
      · subst hgate
        exact absurd ⟨_, hnamed⟩ hclosed.1
      · exact absurd (Gate.isOpen_of_data (h.1 gate hgate) hgate) hclosed.1
    · rw [hsent, hcalls, List.filterMap_nil, List.append_nil]

/-- What can be filled in with data can be with data that differs in a
field that can be written. -/
theorem World.CanFill.of_agree {context other : Fields} {name : String}
    {v : Value} (h : w.CanFill trigger context)
    (hname : other.get? name = some v) (hshort : v.isWritable = true)
    (hagree : ∀ key, key ≠ name → other.get? key = context.get? key) :
    w.CanFill trigger other := by
  intro template hhas part hpart key u hkey hslot hu
  by_cases hsame : String.ofList key = name
  · have hget : other.get? (String.ofList key) = some u :=
      Fields.get?_of_present? hu
    rw [hsame, hname] at hget
    rw [← Option.some.inj hget]
    exact hshort
  · rw [Fields.present?, hagree _ hsame] at hu
    exact h template hhas part hpart key u hkey hslot hu

end Dialling

/-! ## Whole numbers -/

namespace Phone

variable {n : Nat}

/-- The digits of a whole number are its digits. -/
theorem digits_natText (n : Nat) : digits (natText n) = natText n :=
  List.filter_eq_self.mpr fun _ hc =>
    Text.isDecimalDigit_of_isDigit (isDigit_of_mem_natText hc)

/-- The digits of a whole number as binary64 number are those of ten times the
number. -/
theorem digits_text_ofInt (hpos : 0 < n) (h : n < Binary64.significandBound) :
    digits (Binary64.ofInt n).text = natText (n * 10) := by
  have hpoint : digits ".0".toList = ['0'] := by decide
  have hwhole := digits_natText n
  unfold digits at hpoint hwhole ⊢
  rw [Binary64.text_ofInt hpos h, List.filter_append, hwhole, hpoint,
    natText_mul_ten hpos]

/-- An integer is dialled with its digits, and with the code 1 in
front if there are ten. -/
theorem normalize?_natText (h : 10 ≤ (natText n).length) :
    normalize? (natText n) =
      some ('+' :: if (natText n).length = 10 then '1' :: natText n
        else natText n) := by
  rw [normalize?_of_le (by rw [digits_natText]; exact h), digits_natText]

/-- A whole number as binary64 number is dialled with its digits and a zero
behind them. -/
theorem normalize?_text_ofInt (hpos : 0 < n)
    (hbound : n < Binary64.significandBound) (h : 10 ≤ (natText n).length) :
    normalize? (Binary64.ofInt n).text = some ('+' :: natText (n * 10)) := by
  have hmore : 10 < (natText (n * 10)).length := by
    rw [natText_mul_ten hpos, List.length_append]
    exact Nat.lt_succ_of_le h
  have hdigits := digits_text_ofInt hpos hbound
  rw [normalize?_of_le (by rw [hdigits]; exact Nat.le_of_lt hmore), hdigits,
    if_neg (Nat.ne_of_gt hmore)]

/-- The two numbers are not the same, since one has a zero more than the
other. -/
theorem natText_mul_ten_ne (hpos : 0 < n) (p : Prop) [Decidable p] :
    (if p then '1' :: natText n else natText n) ≠ natText (n * 10) := by
  intro heq
  have hzeros := congrArg (List.count '0') heq
  rw [natText_mul_ten hpos] at hzeros
  split at hzeros <;> simp at hzeros

end Phone

/-- **A fraction of zero makes another number.**  A whole number of ten to
fifteen digits is an integer in JSON, and with a point and a zero behind it a
binary64 number, which is the same number.  Data that is accepted is accepted
with either of them for the number of the customer, which is taken over as it
is.  The first is dialled with its digits, and with the code 1 in front of them
if there are ten.  The second is dialled with its digits and a zero behind them.
These numbers are never the same, and where a dispatch of the one data sends to
the one, a dispatch of the other data sends to the other. -/
theorem fractions_make_other_numbers {n : Nat} (hlow : 10 ≤ (natText n).length)
    (hhigh : (natText n).length ≤ 15) :
    let x := Binary64.ofInt n
    let whole :=
      '+' :: if (natText n).length = 10 then '1' :: natText n else natText n
    let other := '+' :: natText (n * 10)
    (Json.Spells (natText n) (.int n) ∧
      Json.Spells (natText n ++ ".0".toList) (.real x) ∧
      x.toInt? = some (n : Int)) ∧
    Phone.normalize? (Phone.textOf (.int n)) = some whole ∧
    Phone.normalize? (Phone.textOf (.real x)) = some other ∧
    whole ≠ other ∧
    ∀ (otherwise : FaultKind) (fields : Fields) (accepted : NoticeData),
      NoticeData.read otherwise (.object fields) = .ok accepted → ∃ data data',
        NoticeData.read otherwise
          (.object (fields.set "customer_phone" (.int n))) = .ok data ∧
        NoticeData.read otherwise
          (.object (fields.set "customer_phone" (.real x))) = .ok data' ∧
        data.context.get? "customer_phone" = some (.int n) ∧
        data'.context.get? "customer_phone" = some (.real x) ∧
        ∀ (w : World) (trigger : String) (options : SendOptions) (s : State),
          w.faults .settings = none → w.faults .template = none →
          (∀ forced, options.forcePhone = some forced → forced = "") →
          let sent :=
            fun d => (w.run (dispatch trigger d options) s).2.destinations
          (sent data = s.destinations ∧ sent data' = s.destinations) ∨
          (sent data = s.destinations ++ [String.ofList whole] ∧
            sent data' = s.destinations ++ [String.ofList other]) := by
  intro x whole other
  have hpos : 0 < n := by
    rw [Nat.pos_iff_ne_zero]
    rintro rfl
    exact absurd hlow (by decide)
  have hbound : n < Binary64.significandBound :=
    Nat.lt_trans ((Nat.length_toDigits_le_iff (by decide) (by decide)).mp hhigh)
      (by decide)
  have hlength : (natText n).length ≤ mostDigits :=
    Nat.le_trans hhigh (by decide)
  have hint : (Value.int n).spell = natText n := by
    simp [Value.spell, Value.literal, intText]
  have hreal : (Value.real x).spell = x.text := rfl
  have hwhole : Phone.normalize? (natText n) = some whole :=
    Phone.normalize?_natText hlow
  have hother : Phone.normalize? x.text = some other :=
    Phone.normalize?_text_ofInt hpos hbound hlow
  have hgiven : (Value.real x).isTruthy = true := by
    rw [Value.isTruthy, Binary64.isZero_ofInt hpos hbound]
    rfl
  refine ⟨⟨Json.spells_int hpos hlength, ?_, Binary64.toInt?_ofInt hpos hbound⟩,
    ?_, ?_, ?_, ?_⟩
  · rw [← Binary64.text_ofInt hpos hbound]
    exact Json.spells_real hpos hbound
  · rw [Phone.normalize?_textOf, hint, hwhole]
  · rw [Phone.normalize?_textOf, hreal, hother]
  · exact fun heq => Phone.natText_mul_ten_ne hpos _ (List.cons.inj heq).2
  · intro otherwise fields accepted haccepted
    have hknown : "customer_phone" ∈ NoticeData.knownNames := by decide
    obtain ⟨data, hdata, hphone, hkept⟩ :=
      NoticeData.read_set (v := .int n) haccepted hknown rfl rfl
    obtain ⟨data', hdata', hphone', hkept'⟩ :=
      NoticeData.read_set (v := .real x) haccepted hknown rfl rfl
    refine ⟨data, data', hdata, hdata', hphone, hphone', ?_⟩
    intro w trigger options s hsettings htemplate hfree sent
    have hshort : (Value.int n).isWritable = true :=
      (Value.isWritable_int n).mpr hlength
    have hfill : w.CanFill trigger data.context ↔
        w.CanFill trigger data'.context := by
      constructor
      · intro h
        exact h.of_agree hphone' rfl fun key hkey =>
          (hkept' key hkey).trans (hkept key hkey).symm
      · intro h
        exact h.of_agree hphone hshort fun key hkey =>
          (hkept key hkey).trans (hkept' key hkey).symm
    obtain ⟨sends, hsends⟩ := World.dispatch_dials hsettings htemplate hfree
    obtain ⟨hsent, hnot⟩ :=
      hsends data (.int n) s hphone
        (by simp [Value.isTruthy, Nat.ne_of_gt hpos]) hshort
    obtain ⟨hsent', hnot'⟩ := hsends data' (.real x) s hphone' hgiven rfl
    rw [← hfill] at hsent' hnot'
    by_cases hgoes : sends ∧ w.CanFill trigger data.context
    · have hdialled := hsent hgoes
      have hdialled' := hsent' hgoes
      rw [hint] at hdialled
      rw [hreal] at hdialled'
      simp only [World.dial?, String.toList_ofList, hwhole, hother]
        at hdialled hdialled'
      by_cases hcan : ((w.faults .sms).isNone && w.sms.canPost) = true
      · exact Or.inr ⟨by
          simpa [hcan] using hdialled, by simpa [hcan] using hdialled'⟩
      · exact Or.inl ⟨by
          simpa [hcan] using hdialled, by simpa [hcan] using hdialled'⟩
    · exact Or.inl ⟨hnot hgoes, hnot' hgoes⟩

/-- A number of ten digits gets a country code if it is an integer, and
else an eleventh digit. -/
theorem ten_digits_with_a_fraction :
    let n : Nat := 5551234567
    let data : NoticeData :=
      ⟨NoticeData.empty.fields.set "customer_phone" (.int n)⟩
    10 ≤ (natText n).length ∧ (natText n).length ≤ 15 ∧
      Phone.normalize? (Phone.textOf (.int n)) = some "+15551234567".toList ∧
      Phone.normalize? (Phone.textOf (.real (.ofInt n))) =
        some "+55512345670".toList ∧
      NoticeData.read .notBody (.object [("customer_phone", .int n)]) =
        .ok data ∧
      (World.shop.run (dispatch "invoice_ready" data {}) {}).2.destinations =
        ["+15551234567"] ∧
      ∃ data',
        NoticeData.read .notBody
          (.object [("customer_phone", .real (.ofInt n))]) = .ok data' ∧
        (World.shop.run (dispatch "invoice_ready" data' {}) {}).2.destinations =
          ["+55512345670"] := by
  intro n data
  have hlow : 10 ≤ (natText n).length := by decide
  have hhigh : (natText n).length ≤ 15 := by decide
  have hempty : NoticeData.read .notBody (.object []) = .ok .empty := rfl
  have hdata : NoticeData.read .notBody (.object [("customer_phone", .int n)]) =
      .ok data := rfl
  have hsends :
      (World.shop.run (dispatch "invoice_ready" data {}) {}).2.destinations =
        ["+15551234567"] := by
    decide +kernel
  have hother : '+' :: natText (n * 10) = "+55512345670".toList := by decide
  have hwhole : ('+' :: if (natText n).length = 10 then '1' :: natText n
      else natText n) = "+15551234567".toList := by
    decide
  obtain ⟨-, hint, hreal, -, haccepted⟩ :=
    fractions_make_other_numbers hlow hhigh
  obtain ⟨found, data', hfound, hread', -, -, hsent⟩ :=
    haccepted .notBody [] .empty hempty
  obtain rfl : found = data := Checked.ok.inj (hfound.symm.trans hdata)
  rw [hwhole] at hint
  rw [hother] at hreal
  refine ⟨hlow, hhigh, hint, hreal, hdata, hsends, data', hread', ?_⟩
  rcases hsent World.shop "invoice_ready" {} {} rfl rfl nofun with
    ⟨hnothing, -⟩ | ⟨-, hdialled⟩
  · have hnone : ["+15551234567"] = [] := hsends.symm.trans hnothing
    cases hnone
  · exact hdialled.trans (by rw [hother]; rfl)

/-- The same number, once as an integer and once as a binary64 number, is not
dialled in the same way. -/
theorem same_number_is_dialled_in_two_ways :
    let sent := fun v : Value =>
      (World.shop.run (dispatch "invoice_ready" ⟨[("customer_phone", v)]⟩ {})
        {}).2.destinations
    (Binary64.ofInt 5551234567).toInt? = some 5551234567 ∧
      Phone.normalize? (Phone.textOf (.int 5551234567)) ≠
        Phone.normalize? (Phone.textOf (.real (.ofInt 5551234567))) ∧
      sent (.int 5551234567) = ["+15551234567"] ∧
        sent (.real (.ofInt 5551234567)) = ["+55512345670"] := by
  decide +kernel

end Notices
