import Mathlib.Algebra.Group.Nat.Defs
import Notices.Proofs.Branch

/-!
# The gates of a dispatch

A notice passes five gates before it goes out on a channel: there are settings,
the trigger is permitted, the channel is neither excluded nor switched off,
there is an enabled template, and there is a recipient.  Each gate is described
here by the documents and the options alone.

* `Found` says what it takes for a document of the store to count as a record.
* `Gate.IsOpen` and `Gate.IsFirstClosed` say which gates are open and
  which one stops a notice.
* `CanBeWritten` says that nothing in the way of the letter is too long to be
  written.
* `dispatch_sends_through_open_gates` says that the client of a channel is
  called exactly if all gates are open and the letter can be written, once and
  with the filled in template, and that otherwise the first closed gate is what
  is reported, or that something is too long.
-/

namespace Notices

/-! ## What is found -/

/-- A document counts as a record if it can be reached, has a field besides its
identity, and reads as that record. -/
structure Found {α : Type} (isOut : Bool) (document : Option Fields)
    (read : Record.Reader α) (record : α) : Prop where
  reachable : isOut = false
  reads : ∃ doc, document = some doc ∧ Store.content doc ≠ [] ∧
    read (.object (Store.content doc)) = .ok record

/-- What is read of a store is what is found in it. -/
theorem unlessOut_recordOf_eq_some_iff {α : Type} {isOut : Bool}
    {document : Option Fields} {read : Record.Reader α} {record : α} :
    World.unlessOut isOut (Store.recordOf read document) = some record ↔
      Found isOut document read record := by
  constructor
  · intro h
    cases isOut with
    | true => cases h
    | false =>
        refine ⟨rfl, ?_⟩
        cases document with
        | none => cases h
        | some doc =>
            cases hcontent : Store.content doc with
            | nil => simp [World.unlessOut, Store.recordOf, hcontent] at h
            | cons field rest =>
                cases hread : read (.object (field :: rest)) with
                | failed faults =>
                    simp [World.unlessOut, Store.recordOf, hcontent, hread,
                      Checked.value?] at h
                | ok found =>
                    have hfound : found = record := by
                      simpa [World.unlessOut, Store.recordOf, hcontent, hread,
                        Checked.value?] using h
                    exact ⟨doc, rfl, by
                      simp [hcontent], by rw [hcontent, hread, hfound]⟩
  · rintro ⟨rfl, doc, rfl, hcontent, hread⟩
    cases hfields : Store.content doc with
    | nil => exact absurd hfields hcontent
    | cons field rest =>
        rw [hfields] at hread
        simp [World.unlessOut, Store.recordOf, hfields, hread, Checked.value?]

namespace World

/-- The settings document counts as these settings. -/
def HasSettings (w : World) (settings : Settings) : Prop :=
  Found w.outage.settings w.settings (Settings.read .notRecord) settings

/-- The first template document of a channel and a trigger counts as this
template. -/
def HasTemplate (w : World) (channel : Channel) (trigger : String)
    (template : Template) : Prop :=
  Found w.outage.templates
    (w.templates.find? fun doc =>
      Store.hasText "type" channel.word doc &&
        Store.hasText "trigger" trigger doc)
    (Template.read .notRecord) template

/-- The settings that the store finds are those that it has. -/
theorem settings?_eq_some_iff {w : World} {settings : Settings} :
    w.settings? = some settings ↔ w.HasSettings settings :=
  unlessOut_recordOf_eq_some_iff

/-- The template that the store finds is the one that it has. -/
theorem template?_eq_some_iff {w : World} {channel : Channel} {trigger : String}
    {template : Template} :
    w.template? channel trigger = some template ↔
      w.HasTemplate channel trigger template :=
  unlessOut_recordOf_eq_some_iff

end World

/-- A notice goes to the recipient that is forced, if that is not the
empty text, and else to the one that a field of the data names, if its
value counts as given. -/
inductive Addressee (forced : Option String) (context : Fields)
    (name : String) : Value → Prop
  | forced {s : String} (given : forced = some s) (nonempty : s ≠ "") :
      Addressee forced context name (.string s)
  | named {v : Value} (free : ∀ s, forced = some s → s = "")
      (there : Fields.get? context name = some v) (truthy : v.isTruthy = true) :
      Addressee forced context name v

/-- The recipient of a dispatch is the addressee. -/
theorem Dispatch.recipient?_eq_some_iff {forced : Option String}
    {context : Fields} {name : String} {recipient : Value} :
    Dispatch.recipient? forced context name = some recipient ↔
      Addressee forced context name recipient := by
  unfold Dispatch.recipient?
  constructor
  · intro h
    split at h
    · next s hs =>
      obtain ⟨rfl, hne⟩ : forced = some s ∧ s ≠ "" := by simpa using hs
      obtain rfl := Option.some.inj h
      exact .forced rfl hne
    · next hs =>
      have hfree : ∀ s, forced = some s → s = "" := by simpa using hs
      obtain ⟨hthere, htruthy⟩ := Option.filter_eq_some_iff.mp h
      exact .named hfree hthere htruthy
  · intro h
    cases h with
    | @forced s hgiven hne =>
        subst hgiven
        have hs : (some s).filter (!·.isEmpty) = some s := by
          simp [Option.filter, hne]
        rw [hs]
    | named hfree hthere htruthy =>
        have hs : forced.filter (!·.isEmpty) = none := by simpa using hfree
        rw [hs, hthere]
        simp [Option.filter, htruthy]

/-! ## The gates -/

/-- Whether the options exclude a channel. -/
def Channel.isExcluded : Channel → SendOptions → Bool
  | .email, options => options.smsOnly
  | .sms, options => options.emailOnly

/-- Whether a channel is switched on. -/
def Settings.enables (settings : Settings) : Channel → Bool
  | .email => settings.emailEnabled
  | .sms => settings.smsEnabled

/-- What a notice has to pass on its way out. -/
inductive Gate where
  | settings
  | trigger
  | channel
  | template
  | recipient
  deriving DecidableEq, Repr

namespace Gate

/-- The place of a gate on the way. -/
def position : Gate → Nat
  | .settings => 0
  | .trigger => 1
  | .channel => 2
  | .template => 3
  | .recipient => 4

/-- Gates in the same place are the same. -/
theorem eq_of_position_eq {g h : Gate} (heq : g.position = h.position) :
    g = h := by
  cases g <;> cases h <;> first | rfl | cases heq

/-- What is reported on a channel if a gate is the one that stops a notice.  Of
a channel that is excluded or switched off nothing is. -/
def report (channel : Channel) : Gate → Option String
  | .settings => some "No settings"
  | .trigger => some "Trigger disabled"
  | .channel => none
  | .template => some "Template not found or disabled"
  | .recipient =>
    match channel with
    | .email => some "No email address"
    | .sms => some "No phone number"

variable (w : World) (channel : Channel) (trigger : String) (data : NoticeData)
    (options : SendOptions)

/-- Whether a gate is open for a notice on a channel. -/
def IsOpen : Gate → Prop
  | .settings => ∃ settings, w.HasSettings settings
  | .trigger => ∃ settings, w.HasSettings settings ∧
      ∀ t, Trigger.ofWord? trigger = some t → settings.allows t = true
  | .channel => ∃ settings, w.HasSettings settings ∧
      channel.isExcluded options = false ∧ settings.enables channel = true
  | .template => ∃ template, w.HasTemplate channel trigger template ∧
      template.enabled = true
  | .recipient => ∃ recipient,
      Addressee (channel.forced options) data.context
        channel.contactField recipient

/-- A gate is the first closed one if it is closed and all gates before it are
open. -/
def IsFirstClosed (gate : Gate) : Prop :=
  ¬ gate.IsOpen w channel trigger data options ∧
    ∀ earlier : Gate, earlier.position < gate.position →
      earlier.IsOpen w channel trigger data options

variable {w channel trigger data options}

/-- There is only one first closed gate. -/
theorem IsFirstClosed.unique {g h : Gate}
    (hg : g.IsFirstClosed w channel trigger data options)
    (hh : h.IsFirstClosed w channel trigger data options) : g = h := by
  apply eq_of_position_eq
  apply Nat.le_antisymm
  · exact Nat.le_of_not_lt fun hlt => hh.1 (hg.2 h hlt)
  · exact Nat.le_of_not_lt fun hlt => hg.1 (hh.2 g hlt)

/-- There is only one settings record. -/
theorem settings_eq {found settings : Settings}
    (hset : w.settings? = some settings) (hfound : w.HasSettings found) :
    found = settings := by
  rw [World.settings?_eq_some_iff.mpr hfound] at hset
  exact Option.some.inj hset

/-- A trigger is permitted unless its switch is off. -/
theorem permits_eq_true_iff {settings : Settings} :
    settings.permits trigger = true ↔
      ∀ t, Trigger.ofWord? trigger = some t → settings.allows t = true := by
  unfold Settings.permits
  cases Trigger.ofWord? trigger <;> simp

/-- A channel is wanted if it is neither excluded nor switched off. -/
theorem isWanted_eq_true_iff {settings : Settings} :
    channel.isWanted settings options = true ↔
      channel.isExcluded options = false ∧ settings.enables channel = true := by
  cases channel <;>
    simp [Channel.isWanted, Dispatch.wantsEmail, Dispatch.wantsSms,
      Channel.isExcluded, Settings.enables]

/-- Without settings the first gate is closed. -/
theorem isFirstClosed_settings (hunset : w.settings? = none) :
    Gate.settings.IsFirstClosed w channel trigger data options := by
  constructor
  · rintro ⟨settings, hset⟩
    rw [World.settings?_eq_some_iff.mpr hset] at hunset
    cases hunset
  · intro earlier hearlier
    exact absurd hearlier (Nat.not_lt_zero _)

/-- A trigger that is switched off closes the second gate. -/
theorem isFirstClosed_trigger {settings : Settings}
    (hset : w.settings? = some settings)
    (hpermits : settings.permits trigger = false) :
    Gate.trigger.IsFirstClosed w channel trigger data options := by
  constructor
  · rintro ⟨found, hfound, hallows⟩
    rw [settings_eq hset hfound, ← permits_eq_true_iff, hpermits] at hallows
    cases hallows
  · intro earlier hearlier
    cases earlier with
    | settings => exact ⟨settings, World.settings?_eq_some_iff.mp hset⟩
    | trigger | channel | template | recipient => simp [position] at hearlier

/-- A channel that is not wanted closes the third gate. -/
theorem isFirstClosed_channel {settings : Settings}
    (hset : w.settings? = some settings)
    (hpermits : settings.permits trigger = true)
    (hwanted : channel.isWanted settings options = false) :
    Gate.channel.IsFirstClosed w channel trigger data options := by
  have hhas := World.settings?_eq_some_iff.mp hset
  constructor
  · rintro ⟨found, hfound, henabled⟩
    rw [settings_eq hset hfound, ← isWanted_eq_true_iff, hwanted] at henabled
    cases henabled
  · intro earlier hearlier
    cases earlier with
    | settings => exact ⟨settings, hhas⟩
    | trigger => exact ⟨settings, hhas, permits_eq_true_iff.mp hpermits⟩
    | channel | template | recipient => simp [position] at hearlier

/-- The gates that the settings decide are open for a wanted channel
and a permitted trigger. -/
theorem isOpen_of_wanted {settings : Settings}
    (hset : w.settings? = some settings)
    (hpermits : settings.permits trigger = true)
    (hwanted : channel.isWanted settings options = true) {gate : Gate}
    (hgate : gate.position < Gate.template.position) :
    gate.IsOpen w channel trigger data options := by
  have hhas := World.settings?_eq_some_iff.mp hset
  cases gate with
  | settings => exact ⟨settings, hhas⟩
  | trigger => exact ⟨settings, hhas, permits_eq_true_iff.mp hpermits⟩
  | channel => exact ⟨settings, hhas, isWanted_eq_true_iff.mp hwanted⟩
  | template | recipient => simp [position] at hgate

/-- What a branch finds out when there is nothing to send is what the
first closed gate reports. -/
theorem isFirstClosed_of_unaddressed {settings : Settings} {cause : SendError}
    (hset : w.settings? = some settings)
    (hpermits : settings.permits trigger = true)
    (hwanted : channel.isWanted settings options = true)
    (hfound : w.addressed? channel trigger data.context options =
      .error cause) :
    ∃ gate : Gate, gate.IsFirstClosed w channel trigger data options ∧
      gate.report channel = some cause.message := by
  unfold World.addressed? at hfound
  split at hfound
  · next hnone =>
    obtain rfl := Except.error.inj hfound
    refine ⟨.template,
      ⟨?_, fun _ hearlier => isOpen_of_wanted hset hpermits hwanted hearlier⟩,
        rfl⟩
    rintro ⟨template, hhas, henabled⟩
    rw [World.template?_eq_some_iff.mpr hhas] at hnone
    simp [Option.filter, henabled] at hnone
  · next template hsome =>
    obtain ⟨htemplate, henabled⟩ := Option.filter_eq_some_iff.mp hsome
    split at hfound
    · next hnobody =>
      obtain rfl := Except.error.inj hfound
      refine ⟨.recipient, ⟨?_, ?_⟩, by cases channel <;> rfl⟩
      · rintro ⟨recipient, haddressee⟩
        rw [Dispatch.recipient?_eq_some_iff.mpr haddressee] at hnobody
        cases hnobody
      · intro earlier hearlier
        cases earlier with
        | template =>
            exact ⟨template, World.template?_eq_some_iff.mp htemplate, henabled⟩
        | settings | trigger | channel =>
            exact isOpen_of_wanted hset hpermits hwanted (by decide)
        | recipient => simp [position] at hearlier
    · cases hfound

/-- If a branch finds something to send, all gates are open. -/
theorem isOpen_of_addressed {settings : Settings} {template : Template}
    {recipient : Value} (hset : w.settings? = some settings)
    (hpermits : settings.permits trigger = true)
    (hwanted : channel.isWanted settings options = true)
    (hfound : w.addressed? channel trigger data.context options =
      .ok (template, recipient)) :
    (∀ gate : Gate, gate.IsOpen w channel trigger data options) ∧
      w.HasTemplate channel trigger template ∧
      Addressee (channel.forced options) data.context channel.contactField
        recipient := by
  unfold World.addressed? at hfound
  split at hfound
  · cases hfound
  · next found hsome =>
    obtain ⟨htemplate, henabled⟩ := Option.filter_eq_some_iff.mp hsome
    split at hfound
    · cases hfound
    · next addressee hto =>
      obtain ⟨rfl, rfl⟩ := Prod.mk.inj (Except.ok.inj hfound)
      have hhas := World.template?_eq_some_iff.mp htemplate
      have haddressee := Dispatch.recipient?_eq_some_iff.mp hto
      refine ⟨fun gate => ?_, hhas, haddressee⟩
      cases gate with
      | settings | trigger | channel =>
          exact isOpen_of_wanted hset hpermits hwanted (by decide)
      | template => exact ⟨found, hhas, henabled⟩
      | recipient => exact ⟨addressee, haddressee⟩

end Gate

/-! ## What can be written -/

/-- What is to be said on a channel can be written: there is neither in the
recipient nor in the value for a placeholder of a part of the template an
integer that is too long. -/
def CanBeWritten (w : World) (channel : Channel) (trigger : String)
    (data : NoticeData) (options : SendOptions) : Prop :=
  ∀ template recipient, w.HasTemplate channel trigger template →
    Addressee (channel.forced options) data.context channel.contactField
      recipient →
      recipient.isWritable = true ∧ template.IsFillable channel data.context

/-- What a branch finds is what has to be written. -/
theorem canBeWritten_iff_of_addressed {w : World} {channel : Channel}
    {trigger : String} {data : NoticeData} {options : SendOptions}
    {template : Template} {recipient : Value}
    (hhas : w.HasTemplate channel trigger template)
    (haddressee : Addressee (channel.forced options) data.context
      channel.contactField recipient) :
    CanBeWritten w channel trigger data options ↔
      recipient.isWritable = true ∧
      template.IsFillable channel data.context := by
  constructor
  · intro h
    exact h template recipient hhas haddressee
  · intro h other someone hother hsomeone
    rw [← World.template?_eq_some_iff] at hhas hother
    rw [← Dispatch.recipient?_eq_some_iff] at haddressee hsomeone
    obtain rfl : template = other := Option.some.inj (hhas.symm.trans hother)
    obtain rfl : recipient = someone :=
      Option.some.inj (haddressee.symm.trans hsomeone)
    exact h

/-! ## What a dispatch does at the gates -/

/-- The report of a dispatch on a channel. -/
def DispatchResult.on (r : DispatchResult) : Channel → Option OutcomeRecord
  | .email => r.email
  | .sms => r.sms

/-- The report on a channel is the report of its outcome. -/
theorem Dispatched.on_toResult (d : Dispatched) (channel : Channel) :
    d.toResult.on channel = (d.on channel).map Outcome.toRecord := by
  cases channel <;> rfl

section Verdict

variable {w : World} {channel : Channel} {trigger : String} {data : NoticeData}
    {options : SendOptions}

/-- A dispatch sends a letter on a channel, with all gates open, or it
stops because the letter cannot be written, or it stops at the first
closed gate and reports it. -/
theorem dispatch_sends_or_stops (hsettings : w.faults .settings = none)
    (htemplate : w.faults .template = none) (s : State) :
    let course := w.course (dispatch trigger data options) s
    ((∀ gate : Gate, gate.IsOpen w channel trigger data options) ∧
      CanBeWritten w channel trigger data options ∧
      ∃ settings template recipient answer,
        w.HasSettings settings ∧ w.HasTemplate channel trigger template ∧
        Addressee (channel.forced options) data.context channel.contactField
          recipient ∧
        course.callsOn channel =
          [⟨template.letter channel id settings data.context
            (String.ofList recipient.spell),
            answer⟩]) ∨
    ((∀ gate : Gate, gate.IsOpen w channel trigger data options) ∧
      ¬ CanBeWritten w channel trigger data options ∧
      course.callsOn channel = [] ∧
      ∃ dispatched, course.result = .ok dispatched ∧
        dispatched.toResult.on channel = some (.failed Value.tooLong.text)) ∨
    ∃ gate : Gate, gate.IsFirstClosed w channel trigger data options ∧
      course.callsOn channel = [] ∧
      ∃ dispatched, course.result = .ok dispatched ∧
        dispatched.toResult.on channel =
          (gate.report channel).map OutcomeRecord.failed := by
  intro course
  cases hset : w.settings? with
  | none =>
      have hcourse :=
        World.course_dispatch_unset trigger data options hsettings hset s
      refine Or.inr <| Or.inr ⟨.settings, Gate.isFirstClosed_settings hset, ?_⟩
      simp only [course, hcourse]
      refine ⟨rfl, _, rfl, ?_⟩
      cases channel <;> rfl
  | some settings =>
      cases hpermits : settings.permits trigger with
      | false =>
          have hcourse :=
            World.course_dispatch_forbidden trigger data options hsettings hset
              hpermits s
          refine Or.inr <|
            Or.inr ⟨.trigger, Gate.isFirstClosed_trigger hset hpermits, ?_⟩
          simp only [course, hcourse]
          refine ⟨rfl, _, rfl, ?_⟩
          cases channel <;> rfl
      | true =>
          obtain ⟨before, dispatched, hresult, hbranch, hcalls⟩ :=
            World.dispatch_on_of_permitted trigger data options hsettings hset
              hpermits s channel
          cases hwanted : channel.isWanted settings options with
          | false =>
              obtain ⟨hnone, hquiet⟩ :=
                w.branchOn_unwanted trigger data.context hwanted before
              refine Or.inr <|
                Or.inr ⟨.channel,
                  Gate.isFirstClosed_channel hset hpermits hwanted,
                hcalls.trans hquiet, dispatched, hresult, ?_⟩
              have hon : dispatched.on channel = none :=
                Except.ok.inj (hbranch.symm.trans hnone)
              rw [Dispatched.on_toResult, hon]
              rfl
          | true =>
              cases hfound :
                w.addressed? channel trigger data.context options with
              | error cause =>
                  obtain ⟨hfailed, hquiet⟩ :=
                    World.branchOn_unaddressed htemplate hwanted hfound before
                  obtain ⟨gate, hclosed, hreport⟩ :=
                    Gate.isFirstClosed_of_unaddressed hset hpermits
                      hwanted hfound
                  refine Or.inr <|
                    Or.inr ⟨gate, hclosed, hcalls.trans hquiet, dispatched,
                      hresult, ?_⟩
                  have hon : dispatched.on channel = some (.failed cause) :=
                    Except.ok.inj (hbranch.symm.trans hfailed)
                  rw [Dispatched.on_toResult, hon, hreport]
                  rfl
              | ok found =>
                  obtain ⟨template, recipient⟩ := found
                  obtain ⟨hopen, hhas, haddressee⟩ :=
                    Gate.isOpen_of_addressed hset hpermits hwanted hfound
                  have hwritten := canBeWritten_iff_of_addressed hhas haddressee
                  by_cases hshort : recipient.isWritable = true ∧
                      template.IsFillable channel data.context
                  · obtain ⟨answer, hcall⟩ :=
                      World.branchOn_addressed htemplate hwanted hfound
                      hshort.1 hshort.2 before
                    exact Or.inl ⟨hopen, hwritten.mpr hshort, settings,
                      template, recipient, answer,
                      World.settings?_eq_some_iff.mp hset, hhas, haddressee,
                        hcalls.trans hcall⟩
                  · obtain ⟨hfailed, hquiet, -⟩ :=
                      World.branchOn_unwritten htemplate hwanted hfound
                        hshort before
                    refine Or.inr <|
                      Or.inl ⟨hopen, fun h => hshort (hwritten.mp h),
                      hcalls.trans hquiet, dispatched, hresult, ?_⟩
                    have hon : dispatched.on channel =
                        some (.failed (.raised Value.tooLong)) :=
                      Except.ok.inj (hbranch.symm.trans hfailed)
                    rw [Dispatched.on_toResult, hon, ← Value.message_tooLong]
                    rfl

end Verdict

/-- **The gates of a dispatch.**  Suppose that the stores answer, if only with
nothing.  The client of a channel is called once if all gates are open and what
is to be said can be written, and else not at all.  It is handed the template
filled in with the data and addressed to the recipient.  If a gate is closed,
the first closed one is what is reported on the channel, and if something that
is too long stands in the way, that is. -/
theorem dispatch_sends_through_open_gates (w : World)
    (hsettings : w.faults .settings = none)
    (htemplate : w.faults .template = none) (s : State) (channel : Channel)
    (trigger : String) (data : NoticeData) (options : SendOptions) :
    let course := w.course (dispatch trigger data options) s
    ((course.callsOn channel).length = 1 ↔
      (∀ gate : Gate, gate.IsOpen w channel trigger data options) ∧
        CanBeWritten w channel trigger data options) ∧
    (¬ ((∀ gate : Gate, gate.IsOpen w channel trigger data options) ∧
        CanBeWritten w channel trigger data options) →
      course.callsOn channel = []) ∧
    (∀ call ∈ course.callsOn channel, ∃ settings template recipient,
      w.HasSettings settings ∧ w.HasTemplate channel trigger template ∧
      Addressee (channel.forced options) data.context channel.contactField
        recipient ∧
      call.letter =
        template.letter channel id settings data.context
          (String.ofList recipient.spell)) ∧
    (∀ gate : Gate, gate.IsFirstClosed w channel trigger data options →
      ∃ dispatched, course.result = .ok dispatched ∧
        dispatched.toResult.on channel =
          (gate.report channel).map OutcomeRecord.failed) ∧
    ((∀ gate : Gate, gate.IsOpen w channel trigger data options) →
      ¬ CanBeWritten w channel trigger data options →
      ∃ dispatched, course.result = .ok dispatched ∧
        dispatched.toResult.on channel =
          some (.failed Value.tooLong.text)) := by
  intro course
  rcases dispatch_sends_or_stops hsettings htemplate s with
    ⟨hopen, hwritten, settings, template, recipient, answer, hset, hhas,
      haddressee, hcalls⟩ |
      ⟨hopen, hlong, hcalls, hreport⟩ | ⟨gate, hclosed, hcalls, hreport⟩
  · refine ⟨⟨fun _ => ⟨hopen, hwritten⟩, fun _ => by rw [hcalls]; rfl⟩,
      fun hnot => absurd ⟨hopen, hwritten⟩ hnot, ?_, ?_,
        fun _ hlong => absurd hwritten hlong⟩
    · intro call hcall
      rw [hcalls] at hcall
      obtain rfl := List.mem_singleton.mp hcall
      exact ⟨settings, template, recipient, hset, hhas, haddressee, rfl⟩
    · intro gate hclosed
      exact absurd (hopen gate) hclosed.1
  · refine ⟨⟨fun hone => ?_, fun h => absurd h.2 hlong⟩,
      fun _ => hcalls, ?_, ?_,
      fun _ _ => hreport⟩
    · rw [hcalls] at hone
      cases hone
    · intro call hcall
      rw [hcalls] at hcall
      cases hcall
    · intro gate hclosed
      exact absurd (hopen gate) hclosed.1
  · refine ⟨⟨fun hone => ?_, fun h => absurd (h.1 gate) hclosed.1⟩,
      fun _ => hcalls, ?_, ?_,
      fun hopen => absurd (hopen gate) hclosed.1⟩
    · rw [hcalls] at hone
      cases hone
    · intro call hcall
      rw [hcalls] at hcall
      cases hcall
    · intro other hother
      obtain rfl := hother.unique hclosed
      exact hreport

/-- In the shop all gates are open for a customer with an address. -/
theorem World.shop_isOpen {data : NoticeData} {recipient : Value}
    (haddressee : Addressee none data.context "customer_email" recipient)
    (gate : Gate) : gate.IsOpen World.shop .email "invoice_ready" data {} := by
  have hset :
      World.shop.HasSettings { emailEnabled := true, smsEnabled := true } :=
    ⟨rfl, _, rfl, by decide, rfl⟩
  cases gate with
  | settings => exact ⟨_, hset⟩
  | trigger => exact ⟨_, hset, by decide⟩
  | channel => exact ⟨_, hset, rfl, rfl⟩
  | template => exact ⟨_, ⟨rfl, _, rfl, by decide, rfl⟩, rfl⟩
  | recipient => exact ⟨recipient, haddressee⟩

/-- A customer of the shop with an address is sent one mail. -/
theorem one_mail_through_open_gates :
    World.shop.faults .settings = none ∧ World.shop.faults .template = none ∧
      let data : NoticeData := ⟨[("customer_email", .string "ana@example.com")]⟩
      ((World.shop.course (dispatch "invoice_ready" data {}) {}).callsOn
        .email).length = 1 := by
  refine ⟨rfl, rfl,
    (dispatch_sends_through_open_gates World.shop rfl rfl {} _ _ _ _).1.mpr
      ⟨World.shop_isOpen (.named nofun rfl rfl), ?_⟩⟩
  intro template recipient _ haddressee
  have hto : some recipient = some (.string "ana@example.com") :=
    (Dispatch.recipient?_eq_some_iff.mpr haddressee).symm
  rw [Option.some.inj hto]
  exact ⟨rfl, fun part _ => Markup.isFillable_of_fieldsAreWritable rfl _⟩

/-- A settings document without fields is there and reads as settings that
permit the trigger and switch the channel off, of which nothing is reported.  It
does not count as found, and that is reported.  And a customer whose address is
a number of five thousand digits is sent no mail, though all gates are open. -/
theorem empty_settings_and_long_addresses_send_nothing :
    (let w : World := { World.shop with settings := some [] }
     Settings.read .notRecord (.object (Store.content [])) = .ok {} ∧
       Settings.permits {} "invoice_ready" = true ∧
       Settings.enables {} .email = false ∧
       Gate.channel.report .email = none ∧
       ∃ dispatched, (w.course (dispatch "invoice_ready" .empty {}) {}).result =
         .ok dispatched ∧
         dispatched.toResult.on .email = some (.failed "No settings")) ∧
    let address : Value := .int (.ofNat (10 ^ 5000))
    let data : NoticeData := ⟨[("customer_email", address)]⟩
    (∀ gate : Gate, gate.IsOpen World.shop .email "invoice_ready" data {}) ∧
      (World.shop.course (dispatch "invoice_ready" data {}) {}).calls = [] := by
  refine ⟨⟨rfl, by decide, rfl, rfl, _, rfl, rfl⟩, ?_⟩
  intro address data
  exact ⟨World.shop_isOpen (.named nofun rfl (by decide +kernel)),
    by decide +kernel⟩

end Notices
