import Notices.Proofs.Audit
import Notices.Proofs.Escape
import Notices.Proofs.Side

/-!
# Tests of a template

A test goes out whatever the switches say, and only once.  It is the
letter of its template, filled in with the sample and marked, and
its document has no links.

* `World.CanTest` says what a test has to find: a template, settings, and a
  sample that has a due date.
* `World.course_sendTest` says that such a test is the delivery of one letter.
* `World.SwitchedFrom` says that two worlds differ in nothing but switches, and
  `course_deliver_switched` that a letter is delivered alike in both.
* `tests_are_marked_and_blind_to_switches` puts these together.
-/

namespace Notices

/-! ## Documents that differ in their switches -/

/-- Two documents have the same fields but for some names. -/
def Fields.AgreeBut (names : List String) (doc other : Fields) : Prop :=
  ∀ name, name ∉ names → doc.get? name = other.get? name

/-- Documents that agree but for some names do so without the identity that
the store gives them. -/
theorem Fields.AgreeBut.content {names : List String} {doc other : Fields}
    (h : doc.AgreeBut names other) :
    Fields.AgreeBut names (Store.content doc) (Store.content other) := by
  intro name hname
  have hfields := h name hname
  unfold Store.content erase
  rw [get?_filter (· != "_id"), get?_filter (· != "_id"), hfields]

namespace Template

/-- The fields of a template that tell when it is sent. -/
def switchNames : List String := ["enabled", "trigger"]

/-- Each field of a template that tells what is sent is read from its own
entry. -/
structure ReadsAs (fields : Fields) (t : Template) : Prop where
  id : Record.required fields "template_id" Record.text = .ok t.id
  channel : Record.required fields "type" Channel.read = .ok t.channel
  subject : Record.optionalText fields "email_subject" = .ok t.subject
  html : Record.optionalText fields "email_html" = .ok t.html
  text : Record.optionalText fields "email_text" = .ok t.text
  smsBody : Record.optionalText fields "sms_body" = .ok t.smsBody

/-- An object reads as a template if each of its fields does. -/
theorem read_eq_ok_iff {otherwise : FaultKind} {fields : Fields}
    {t : Template} :
    read otherwise (.object fields) = .ok t ↔
      Record.required fields "template_id" Record.text = .ok t.id ∧
      Record.required fields "type" Channel.read = .ok t.channel ∧
      Record.required fields "trigger" Record.text = .ok t.trigger ∧
      Record.withDefault fields "name" "" Record.text = .ok t.name ∧
      Record.withDefault fields "enabled" true Record.flag = .ok t.enabled ∧
      Record.optionalText fields "email_subject" = .ok t.subject ∧
      Record.optionalText fields "email_html" = .ok t.html ∧
      Record.optionalText fields "email_text" = .ok t.text ∧
      Record.optionalText fields "sms_body" = .ok t.smsBody := by
  simp only [read, Record.fieldsOf, Checked.andThen, Checked.seq_eq_ok_iff,
    Checked.map_eq_ok_iff]
  constructor
  · rintro ⟨_,
      ⟨_, ⟨_, ⟨_,
        ⟨_, ⟨_, ⟨_, ⟨_, ⟨_, h1, rfl⟩, _, h2, rfl⟩, _, h3, rfl⟩, _, h4, rfl⟩, _,
          h5, rfl⟩,
      _, h6, rfl⟩, _, h7, rfl⟩, _, h8, rfl⟩, _, h9, rfl⟩
    exact ⟨h1, h2, h3, h4, h5, h6, h7, h8, h9⟩
  · rintro ⟨h1, h2, h3, h4, h5, h6, h7, h8, h9⟩
    exact ⟨_,
      ⟨_, ⟨_, ⟨_,
        ⟨_, ⟨_, ⟨_, ⟨_, ⟨_, h1, rfl⟩, _, h2, rfl⟩, _, h3, rfl⟩, _, h4, rfl⟩, _,
          h5, rfl⟩,
      _, h6, rfl⟩, _, h7, rfl⟩, _, h8, rfl⟩, _, h9, rfl⟩

/-- What tells what is sent of a template is read field by field. -/
theorem ReadsAs.of_read {otherwise : FaultKind} {fields : Fields} {t : Template}
    (h : read otherwise (.object fields) = .ok t) : ReadsAs fields t := by
  obtain ⟨h1, h2, -, -, -, h6, h7, h8, h9⟩ := read_eq_ok_iff.mp h
  exact ⟨h1, h2, h6, h7, h8, h9⟩

/-- Two templates say the same to whoever they are sent. -/
structure SameContent (t other : Template) : Prop where
  id : t.id = other.id
  channel : t.channel = other.channel
  subject : t.subject = other.subject
  html : t.html = other.html
  text : t.text = other.text
  smsBody : t.smsBody = other.smsBody

/-- A field that has to be there is read by its value alone. -/
theorem required_congr {α : Type} {fields other : Fields} {name : String}
    (h : fields.get? name = other.get? name) (read : Record.Reader α) :
    Record.required fields name read = Record.required other name read := by
  unfold Record.required
  rw [h]

/-- Templates whose documents differ in their switches say the same. -/
theorem SameContent.of_agreeBut {fields other : Fields} {t u : Template}
    (h : fields.AgreeBut switchNames other)
    (ht : read .notRecord (.object fields) = .ok t)
    (hu : read .notRecord (.object other) = .ok u) :
    t.SameContent u := by
  have hleft := ReadsAs.of_read ht
  have hright := ReadsAs.of_read hu
  have hrequired : ∀ {α : Type} {name : String} {reader : Record.Reader α}
      {a b : α}, name ∉ switchNames →
      Record.required fields name reader = .ok a →
        Record.required other name reader = .ok b → a = b := by
    intro α name reader a b hname ha hb
    rw [required_congr (h name hname), hb] at ha
    exact (Checked.ok.inj ha).symm
  have hoptional : ∀ {name : String} {a b : Option String}, name ∉ switchNames →
      Record.optionalText fields name = .ok a →
        Record.optionalText other name = .ok b → a = b := by
    intro name a b hname ha hb
    unfold Record.optionalText at ha hb
    rw [Record.withDefault_congr (h name hname), hb] at ha
    exact (Checked.ok.inj ha).symm
  exact {
    id := hrequired (by decide) hleft.id hright.id
    channel := hrequired (by decide) hleft.channel hright.channel
    subject := hoptional (by decide) hleft.subject hright.subject
    html := hoptional (by decide) hleft.html hright.html
    text := hoptional (by decide) hleft.text hright.text
    smsBody := hoptional (by decide) hleft.smsBody hright.smsBody }

end Template

namespace Settings

/-- The fields of the settings that are switches. -/
def switchNames : List String :=
  ["email_enabled", "sms_enabled", "send_invoice_notifications",
    "send_shipping_notifications", "send_delivery_notifications",
    "send_new_release_notifications"]

/-- Two settings have the same sender of mails. -/
structure SameSender (s other : Settings) : Prop where
  name : s.senderName = other.senderName
  address : s.senderAddress = other.senderAddress
  replyTo : s.replyTo = other.replyTo

/-- Settings whose documents differ in their switches have the same sender. -/
theorem SameSender.of_agreeBut {fields other : Fields} {s u : Settings}
    (h : fields.AgreeBut switchNames other)
    (hs : read .notRecord (.object fields) = .ok s)
    (hu : read .notRecord (.object other) = .ok u) :
    s.SameSender u := by
  have hleft := read_eq_ok_iff.mp hs
  have hright := read_eq_ok_iff.mp hu
  have hfield : ∀ {α : Type} {name : String} {default a b : α}
      {reader : Record.Reader α}, name ∉ switchNames →
      Record.withDefault fields name default reader = .ok a →
      Record.withDefault other name default reader = .ok b → a = b := by
    intro α name default a b reader hname ha hb
    rw [Record.withDefault_congr (h name hname), hb] at ha
    exact (Checked.ok.inj ha).symm
  exact {
    name := hfield (by decide) hleft.senderName hright.senderName
    address := hfield (by decide) hleft.senderAddress hright.senderAddress
    replyTo := hfield (by decide) hleft.replyTo hright.replyTo }

end Settings

/-- Templates that say the same, under settings with the same sender, are filled
in to the same letter. -/
theorem Template.SameContent.letter_eq {t u : Template}
    {settings other : Settings} (ht : t.SameContent u)
    (hs : settings.SameSender other) (channel : Channel)
    (mark : String → String) (data : Fields) (recipient : String) :
    t.letter channel mark settings data recipient =
      u.letter channel mark other data recipient := by
  cases channel with
  | email =>
      unfold Template.letter
      simp only [ht.subject, ht.html, ht.text, hs.name, hs.address, hs.replyTo]
  | sms =>
      unfold Template.letter
      simp only [ht.smsBody]

/-! ## The course of a test -/

namespace World

/-- A test finds all that it needs: the first template document with the
id and the settings document count, what reads them works, and the
sample has a due date. -/
structure CanTest (w : World) (templateId : String) (template : Template)
    (settings : Settings) (data : Fields) : Prop where
  template : Found w.outage.templates
    (w.templates.find? (Store.hasText "template_id" templateId))
    (Template.read .notRecord) template
  settings : w.HasSettings settings
  data : Sample.context? w.now = some data
  works : w.faults .templateById = none ∧ w.faults .settings = none

variable {w v : World} {templateId recipient : String} {template : Template}
    {settings : Settings} {data : Fields}

/-- A test that finds all that it needs is the delivery of its marked letter. -/
theorem CanTest.course_sendTest
    (h : w.CanTest templateId template settings data) (recipient : String)
    (s : State) :
    let course := w.course (sendTest templateId recipient) s
    let letter :=
      template.letter template.channel (TestSend.mark ++ ·) settings
        data recipient
    let delivery := w.course (letter.deliver template.id (.ok {})) s
    course.result = delivery.result ∧ course.calls = delivery.calls ∧
      course.after = delivery.after := by
  intro course letter delivery
  have htemplate : w.templateById? templateId = some template :=
    unlessOut_recordOf_eq_some_iff.mpr h.template
  have hsettings : w.settings? = some settings :=
    settings?_eq_some_iff.mpr h.settings
  simp only [course]
  unfold sendTest
  rw [course_bind, course_templateById, h.works.1, htemplate]
  simp only [unlessFault, Course.andThen_ok]
  rw [course_bind, course_settings, h.works.2, hsettings]
  simp only [unlessFault, Course.andThen_ok]
  rw [course_bind, course_sample, h.data]
  simp only [Option.elim_some, Course.andThen_ok,
    TestSend.send_eq_deliver (TestSend.fieldsAreWritable_sample h.data)]
  refine ⟨rfl, ?_, rfl⟩
  unfold Course.calls
  rw [List.filterMap_append, List.filterMap_append, List.filterMap_append]
  rfl

/-- A delivery writes at most one document, and one if the log can be written.
The document holds the letter and what became of it. -/
theorem log_deliver (w : World) (l : Letter) (templateId : String)
    (links : Links) (s : State) :
    ∃ docs : List Fields,
      (w.course (l.deliver templateId (.ok links)) s).after.log =
        s.log ++ docs ∧
      docs.length ≤ 1 ∧ (w.KeepsLog → docs.length = 1) ∧
      ∀ doc ∈ docs,
        Records doc l templateId (Notice.outcomeOf (w.hand l s).1)
          links.named := by
  let attempt := l.attempt templateId links (Notice.outcomeOf (w.hand l s).1)
  have hafter : (w.course (l.deliver templateId (.ok links)) s).after =
      (w.answer (w.hand l s).2 (.record attempt)).2 := by
    rw [course_deliver]
  rw [hafter]
  rcases w.log_answer (w.hand l s).2 (.record attempt) with hkept |
    ⟨other, id, hother, hgrown⟩
  · rw [log_hand] at hkept
    refine ⟨[], by
      rw [hkept, List.append_nil], Nat.zero_le 1, fun hlog => ?_, nofun⟩
    have hgrown := (hlog.answer_record (w.hand l s).2 attempt).2
    rw [hkept, log_hand] at hgrown
    have hlength := congrArg List.length hgrown
    simp at hlength
  · obtain rfl := Request.record.inj hother
    rw [log_hand] at hgrown
    refine ⟨_, hgrown, Nat.le_refl 1, fun _ => rfl, fun doc hdoc => ?_⟩
    obtain rfl := List.mem_singleton.mp hdoc
    exact records_stamp ..

/-! ## Worlds that differ in their switches -/

/-- Two worlds differ in nothing but switches: those of the template with an id,
and those of the settings. -/
structure SwitchedFrom (templateId : String) (w v : World) : Prop where
  template : ∀ doc other,
    w.templates.find? (Store.hasText "template_id" templateId) = some doc →
    v.templates.find? (Store.hasText "template_id" templateId) = some other →
    doc.AgreeBut Template.switchNames other
  settings : ∀ doc other, w.settings = some doc → v.settings = some other →
    doc.AgreeBut Settings.switchNames other
  rest : v = { w with settings := v.settings, templates := v.templates }

/-- A letter is delivered alike whatever the settings and the templates are. -/
theorem course_deliver_with (w : World) (doc : Option Fields)
    (templates : List Fields) (l : Letter) (templateId : String) (links : Links)
    (s : State) :
    ({ w with settings := doc, templates } : World).course
      (l.deliver templateId (.ok links)) s =
      w.course (l.deliver templateId (.ok links)) s := by
  rw [course_deliver, course_deliver]
  cases l <;> rfl

/-- Worlds that differ in their switches fill in the same letter as a test. -/
theorem SwitchedFrom.letter_eq (h : w.SwitchedFrom templateId v) {u : Template}
    {other : Settings} {sample : Fields}
    (hw : w.CanTest templateId template settings data)
    (hv : v.CanTest templateId u other sample) (recipient : String) :
    template.letter template.channel (TestSend.mark ++ ·) settings data
      recipient =
      u.letter u.channel (TestSend.mark ++ ·) other sample recipient ∧
      template.id = u.id := by
  obtain ⟨doc, hdoc, -, hread⟩ := hw.template.reads
  obtain ⟨doc', hdoc', -, hread'⟩ := hv.template.reads
  obtain ⟨set, hset, -, hsettings⟩ := hw.settings.reads
  obtain ⟨set', hset', -, hsettings'⟩ := hv.settings.reads
  have hcontent : template.SameContent u :=
    .of_agreeBut (h.template doc doc' hdoc hdoc').content hread hread'
  have hsender : settings.SameSender other :=
    .of_agreeBut (h.settings set set' hset hset').content hsettings hsettings'
  have hnow : v.now = w.now := by rw [h.rest]
  have hsample : sample = data := by
    have hdata := hv.data
    rw [hnow, hw.data] at hdata
    exact (Option.some.inj hdata).symm
  refine ⟨?_, hcontent.id⟩
  rw [hsample, ← hcontent.channel]
  exact hcontent.letter_eq hsender ..

end World

/-- **Tests.**  A test that finds its template, the settings and the sample
calls one client and only once, that of the channel of its template.  The
letter goes to the given recipient and is the template filled in with the
sample; the mark stands before the subject of a mail, and before a text
message.  Its document holds the letter, so marked, and no links.  Switches of
the template and of the settings, and the trigger of the template, change none
of this: not what the test comes to, not what is handed over and answered, and
not what the test leaves. -/
theorem tests_are_marked_and_blind_to_switches (w : World) {templateId : String}
    {template : Template} {settings : Settings} {data : Fields}
    (hcan : w.CanTest templateId template settings data) (recipient : String)
    (s : State) :
    let course := w.course (sendTest templateId recipient) s
    (∃ call, course.calls = [call] ∧
      (template.channel = .email →
        ∃ mail, call.letter = .email mail ∧ mail.recipient = recipient ∧
        mail.subject = "[TEST] " ++ Template.fill data template.subject ∧
        mail.html = Template.fill data template.html ∧
          mail.text = Template.fill data template.text) ∧
      (template.channel = .sms →
        call.letter =
          .sms recipient ("[TEST] " ++ Template.fill data template.smsBody)) ∧
      ∃ docs : List Fields, course.after.log = s.log ++ docs ∧ docs.length ≤ 1 ∧
        (w.KeepsLog → docs.length = 1) ∧
        ∀ doc ∈ docs,
          doc.get? "recipient" = some (.string recipient) ∧
          (template.channel = .email →
            doc.get? "subject" =
              some (.string
                ("[TEST] " ++ Template.fill data template.subject))) ∧
          (template.channel = .sms →
            doc.get? "body" =
              some (.string
                ("[TEST] " ++ Template.fill data template.smsBody))) ∧
          ∀ name ∈ Links.names, doc.get? name = some .null) ∧
    ∀ (v : World) (t : Template) (other : Settings)
      (sample : Fields), w.SwitchedFrom templateId v →
      v.CanTest templateId t other sample →
      let switched := v.course (sendTest templateId recipient) s
      course.result = switched.result ∧ course.calls = switched.calls ∧
        course.after = switched.after := by
  intro course
  obtain ⟨hresult, hcalls, hafter⟩ := hcan.course_sendTest recipient s
  constructor
  · rw [w.calls_deliver] at hcalls
    refine ⟨_, hcalls, fun hchannel => ?_, fun hchannel => ?_, ?_⟩
    · rw [hchannel]
      exact ⟨_, rfl, rfl, rfl, rfl, rfl⟩
    · rw [hchannel]
      rfl
    · obtain ⟨docs, hlog, hlength, hone, hdocs⟩ := w.log_deliver
        (template.letter template.channel (TestSend.mark ++ ·) settings data
          recipient) template.id {} s
      refine ⟨docs, by
        simp only [course, hafter, hlog], hlength, hone, fun doc hdoc => ?_⟩
      have hrecords := hdocs doc hdoc
      refine ⟨?_, fun hchannel => ?_, fun hchannel => ?_, fun name hname => ?_⟩
      · rw [hrecords.recipient]
        cases template.channel <;> rfl
      · rw [hrecords.subject, hchannel]
        rfl
      · rw [hrecords.body, hchannel]
        rfl
      · rw [hrecords.links name hname, Links.named_none name hname]
        rfl
  · intro v t other sample hswitched hv switched
    obtain ⟨hresult', hcalls', hafter'⟩ := hv.course_sendTest recipient s
    obtain ⟨hletter, hid⟩ := hswitched.letter_eq hcan hv recipient
    rw [← hletter, ← hid, hswitched.rest, World.course_deliver_with]
      at hresult' hcalls' hafter'
    rw [← hswitched.rest] at hresult' hcalls' hafter'
    exact ⟨hresult.trans hresult'.symm, hcalls.trans hcalls'.symm,
      hafter.trans hafter'.symm⟩

/-- In a shop where all is switched off, its settings and its template of mails,
a test goes out all the same. -/
theorem test_while_all_is_switched_off :
    let off : World := { World.shop with
      settings :=
        some [("email_enabled", .bool false), ("sms_enabled", .bool false),
          ("send_invoice_notifications", .bool false)]
      templates := World.shop.templates.map (("enabled", .bool false) :: ·) }
    let test := off.course (sendTest "mail-1" "ana@example.com") {}
    (∃ call mail, test.calls = [call] ∧ call.letter = .email mail ∧
      mail.recipient = "ana@example.com" ∧
      mail.subject = "[TEST] Invoice INV-99999") ∧
      test.result =
        (World.shop.course (sendTest "mail-1" "ana@example.com")
          {}).result := by
  intro off test
  obtain ⟨data, hdata, hfill⟩ : ∃ data, Sample.context? off.now = some data ∧
      Template.fill data (some "Invoice \x7b\x7binvoice_number\x7d\x7d") =
        "Invoice INV-99999" :=
    ⟨_, rfl, by decide +kernel⟩
  obtain ⟨template, settings, hchannel, hsubject, hcan⟩ : ∃ template settings,
    template.channel = .email ∧
      template.subject = some "Invoice \x7b\x7binvoice_number\x7d\x7d" ∧
      off.CanTest "mail-1" template settings data :=
    ⟨_, _, rfl, rfl, ⟨rfl, _, rfl, nofun, rfl⟩, ⟨rfl, _, rfl, nofun, rfl⟩,
      hdata, rfl, rfl⟩
  obtain ⟨other, set, hshop⟩ : ∃ other set,
      World.shop.CanTest "mail-1" other set data :=
    ⟨_, _, ⟨rfl, _, rfl, nofun, rfl⟩, ⟨rfl, _, rfl, nofun, rfl⟩, hdata, rfl,
      rfl⟩
  have hswitched : off.SwitchedFrom "mail-1" World.shop := {
    template := by
      intro doc doc' hdoc hdoc' name hname
      obtain rfl := Option.some.inj hdoc
      obtain rfl := Option.some.inj hdoc'
      have hne : ¬ "enabled" = name := fun heq => hname (heq ▸ by decide)
      simp [Fields.get?, hne]
    settings := by
      intro doc doc' hdoc hdoc' name hname
      obtain rfl := Option.some.inj hdoc
      obtain rfl := Option.some.inj hdoc'
      have hmail : ¬ "email_enabled" = name :=
        fun heq => hname (heq ▸ by decide)
      have htexts : ¬ "sms_enabled" = name := fun heq => hname (heq ▸ by decide)
      have hinvoices : ¬ "send_invoice_notifications" = name :=
        fun heq => hname (heq ▸ by decide)
      simp [Fields.get?, hmail, htexts, hinvoices]
    rest := rfl }
  obtain ⟨⟨call, hcalls, hmail, -, -⟩, hsame⟩ :=
    tests_are_marked_and_blind_to_switches off hcan "ana@example.com" {}
  obtain ⟨mail, hletter, hrecipient, hmarked, -, -⟩ := hmail hchannel
  refine ⟨⟨call, mail, hcalls, hletter, hrecipient, ?_⟩,
    (hsame _ _ _ _ hswitched hshop).1⟩
  rw [hmarked, hsubject, hfill]
  decide

/-- A settings document without fields is a valid one, but it does not count as
found: a test sends nothing. -/
theorem settings_without_fields_stop_a_test :
    let w : World := { World.shop with settings := some [] }
    let test := w.course (sendTest "mail-1" "ana@example.com") {}
    Settings.read .notRecord (.object (Store.content [])) = .ok {} ∧
      (∃ template, w.templateById? "mail-1" = some template) ∧
      test.calls.length = 0 ∧ test.result = .ok (.failed .noSettingsForTest) :=
  ⟨rfl, ⟨_, rfl⟩, rfl, rfl⟩

end Notices
