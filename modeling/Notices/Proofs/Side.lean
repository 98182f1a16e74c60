import Mathlib.Data.Option.Basic
import Notices.Proofs.Gate

/-!
# The side of a channel

A part of the world is of use to one channel only: its templates, its fields of
the settings, its account and its provider.  Two worlds that differ on the side
of a channel agree in all that the other channel can see.

* `Settings.DiffersOn` and `World.DiffersOn` say what may differ.
* `Settings.read_of_differsOn` says that settings documents which differ on a
  side read as settings that do.
* `World.DiffersOn.settings?` and `World.DiffersOn.template?` say what the
  stores of two such worlds find.
-/

namespace Notices

/-! ## Reading fields one by one -/

namespace Checked

variable {α β : Type}

/-- A value is what the function makes of a value that was read. -/
theorem map_eq_ok_iff {f : α → β} {a : Checked α} {b : β} :
    f <$> a = .ok b ↔ ∃ x, a = .ok x ∧ f x = b := by
  cases a with
  | ok x => simp
  | failed faults => exact ⟨nofun, nofun⟩

/-- A combined result is a value if both parts are. -/
theorem seq_eq_ok_iff {f : Checked (α → β)} {a : Checked α} {b : β} :
    f <*> a = .ok b ↔ ∃ g, f = .ok g ∧ ∃ x, a = .ok x ∧ g x = b := by
  cases f with
  | ok g =>
      cases a with
      | ok x => simp
      | failed faults => exact ⟨nofun, nofun⟩
  | failed faults => cases a <;> exact ⟨nofun, nofun⟩

end Checked

/-- A field that may be left out is read by its value alone. -/
theorem Record.withDefault_congr {α : Type} {fields other : Fields}
    {name : String} (h : fields.get? name = other.get? name) (default : α)
    (read : Record.Reader α) :
    Record.withDefault fields name default read =
      Record.withDefault other name default read := by
  unfold Record.withDefault
  rw [h]

/-- The fields with one of some names. -/
def Fields.only (names : List String) (fields : Fields) : Fields :=
  fields.filter fun field => names.contains field.1

/-- A field whose name is among those that are kept reads as before. -/
theorem Fields.get?_only {names : List String} {name : String}
    (h : name ∈ names) (fields : Fields) :
    (fields.only names).get? name = fields.get? name := by
  have hkept : names.contains name = true := List.contains_iff_mem.mpr h
  rw [only, get?_filter (names.contains ·), if_pos hkept]

/-! ## Settings that differ on a side -/

/-- The fields of the settings that are of use to a channel alone. -/
def Channel.settingNames : Channel → List String
  | .email =>
      ["email_enabled", "email_from_name", "email_from_address",
        "email_reply_to"]
  | .sms => ["sms_enabled", "sms_from_name"]

namespace Settings

/-- Each field of the settings is read from its own entry. -/
structure ReadsAs (fields : Fields) (s : Settings) : Prop where
  emailEnabled : Record.withDefault fields "email_enabled" false Record.flag =
    .ok s.emailEnabled
  senderName : Record.withDefault fields "email_from_name" "" Record.text =
    .ok s.senderName
  senderAddress : Record.withDefault fields "email_from_address" ""
    Record.text = .ok s.senderAddress
  replyTo : Record.withDefault fields "email_reply_to" none
    (Record.nullable Record.text) = .ok s.replyTo
  smsEnabled : Record.withDefault fields "sms_enabled" false Record.flag =
    .ok s.smsEnabled
  smsSenderName : Record.withDefault fields "sms_from_name" "" Record.text =
    .ok s.smsSenderName
  sendInvoices :
    Record.withDefault fields "send_invoice_notifications" true Record.flag =
      .ok s.sendInvoices
  sendShipping :
    Record.withDefault fields "send_shipping_notifications" true Record.flag =
      .ok s.sendShipping
  sendDelivery :
    Record.withDefault fields "send_delivery_notifications" true Record.flag =
      .ok s.sendDelivery
  sendReleases :
    Record.withDefault fields "send_new_release_notifications" true
      Record.flag = .ok s.sendReleases

/-- An object reads as settings if each of its fields does. -/
theorem read_eq_ok_iff {otherwise : FaultKind} {fields : Fields}
    {s : Settings} :
    read otherwise (.object fields) = .ok s ↔ ReadsAs fields s := by
  simp only [read, Record.fieldsOf, Checked.andThen, Checked.seq_eq_ok_iff,
    Checked.map_eq_ok_iff]
  constructor
  · rintro ⟨_,
      ⟨_, ⟨_, ⟨_,
        ⟨_, ⟨_, ⟨_, ⟨_, ⟨_, ⟨_, h1, rfl⟩, _, h2, rfl⟩, _, h3, rfl⟩, _, h4, rfl⟩,
          _, h5, rfl⟩,
      _, h6, rfl⟩, _, h7, rfl⟩, _, h8, rfl⟩, _, h9, rfl⟩, _, h10, rfl⟩
    exact ⟨h1, h2, h3, h4, h5, h6, h7, h8, h9, h10⟩
  · rintro ⟨h1, h2, h3, h4, h5, h6, h7, h8, h9, h10⟩
    exact ⟨_,
      ⟨_, ⟨_, ⟨_,
        ⟨_, ⟨_, ⟨_, ⟨_, ⟨_, ⟨_, h1, rfl⟩, _, h2, rfl⟩, _, h3, rfl⟩, _, h4, rfl⟩,
          _, h5, rfl⟩,
      _, h6, rfl⟩, _, h7, rfl⟩, _, h8, rfl⟩, _, h9, rfl⟩, _, h10, rfl⟩

/-- Settings whose side of a channel is taken from others. -/
def withSide (side : Channel) (s other : Settings) : Settings :=
  match side with
  | .email => { s with
      emailEnabled := other.emailEnabled
      senderName := other.senderName
      senderAddress := other.senderAddress
      replyTo := other.replyTo }
  | .sms =>
      { s with
        smsEnabled := other.smsEnabled, smsSenderName := other.smsSenderName }

/-- Settings that differ at most on the side of a channel. -/
def SameBut (side : Channel) (s other : Settings) : Prop :=
  s.withSide side other = other

/-- Fields of which those of a side have valid values. -/
def IsValidOn (side : Channel) (fields : Fields) : Prop :=
  ∃ s, read .notRecord (.object (fields.only side.settingNames)) = .ok s

/-- Two settings documents that differ at most on the side of a channel: they
are the same, or both of them have fields or none of them has, the fields of the
side are valid in both, and all other fields are the same. -/
inductive DiffersOn (side : Channel) : Option Fields → Option Fields → Prop
  | same (doc : Option Fields) : DiffersOn side doc doc
  | side {doc other : Fields}
      (there : Store.content doc = [] ↔ Store.content other = [])
      (valid : IsValidOn side (Store.content doc) ∧
        IsValidOn side (Store.content other))
      (shared : ∀ name, name ∉ side.settingNames →
        (Store.content doc).get? name = (Store.content other).get? name) :
      DiffersOn side (some doc) (some other)

/-- Fields that differ from those of settings on a side, where they are valid,
read as settings that differ on that side. -/
theorem read_of_shared {side : Channel} {fields other : Fields} {s : Settings}
    (hread : read .notRecord (.object fields) = .ok s)
    (hvalid : IsValidOn side other)
    (hshared : ∀ name, name ∉ side.settingNames →
      fields.get? name = other.get? name) :
    ∃ found, read .notRecord (.object other) = .ok found ∧
      s.SameBut side found := by
  obtain ⟨own, hown⟩ := hvalid
  refine ⟨s.withSide side own, ?_, by cases side <;> rfl⟩
  rw [read_eq_ok_iff] at hread hown ⊢
  -- a field of the side is read as in the valid part, and any other one
  -- as in the first fields
  have hside : ∀ {α : Type} {name : String} {default a : α}
      {reader : Record.Reader α},
      Record.withDefault (other.only side.settingNames) name default reader =
        .ok a →
      name ∈ side.settingNames →
        Record.withDefault other name default reader = .ok a :=
    fun h hname =>
      (Record.withDefault_congr (Fields.get?_only hname other).symm _ _).trans h
  have hrest : ∀ {α : Type} {name : String} {default a : α}
      {reader : Record.Reader α},
      Record.withDefault fields name default reader = .ok a →
      name ∉ side.settingNames →
        Record.withDefault other name default reader = .ok a :=
    fun h hname => (Record.withDefault_congr (hshared _ hname).symm _ _).trans h
  cases side with
  | email => exact {
      emailEnabled := hside hown.emailEnabled (by decide)
      senderName := hside hown.senderName (by decide)
      senderAddress := hside hown.senderAddress (by decide)
      replyTo := hside hown.replyTo (by decide)
      smsEnabled := hrest hread.smsEnabled (by decide)
      smsSenderName := hrest hread.smsSenderName (by decide)
      sendInvoices := hrest hread.sendInvoices (by decide)
      sendShipping := hrest hread.sendShipping (by decide)
      sendDelivery := hrest hread.sendDelivery (by decide)
      sendReleases := hrest hread.sendReleases (by decide) }
  | sms => exact {
      emailEnabled := hrest hread.emailEnabled (by decide)
      senderName := hrest hread.senderName (by decide)
      senderAddress := hrest hread.senderAddress (by decide)
      replyTo := hrest hread.replyTo (by decide)
      smsEnabled := hside hown.smsEnabled (by decide)
      smsSenderName := hside hown.smsSenderName (by decide)
      sendInvoices := hrest hread.sendInvoices (by decide)
      sendShipping := hrest hread.sendShipping (by decide)
      sendDelivery := hrest hread.sendDelivery (by decide)
      sendReleases := hrest hread.sendReleases (by decide) }

/-- The record of a document is found if it has fields that read as that
record. -/
theorem recordOf_some {doc : Fields} (hthere : Store.content doc ≠ []) :
    Store.recordOf (read .notRecord) (some doc) =
      (read .notRecord (.object (Store.content doc))).value? := by
  cases hfields : Store.content doc with
  | nil => exact absurd hfields hthere
  | cons field rest => simp [Store.recordOf, hfields]

/-- A document without fields holds no settings. -/
theorem recordOf_nil {doc : Fields} (hthere : Store.content doc = []) :
    Store.recordOf (read .notRecord) (some doc) = none := by
  simp [Store.recordOf, hthere]

theorem SameBut.refl (side : Channel) (s : Settings) : s.SameBut side s := by
  cases side <;> rfl

/-- Documents that differ on a side hold settings that differ on that side, or
none of them holds any. -/
theorem DiffersOn.recordOf {side : Channel} {doc other : Option Fields}
    (h : DiffersOn side doc other) :
    Option.Rel (SameBut side) (Store.recordOf (read .notRecord) doc)
      (Store.recordOf (read .notRecord) other) := by
  cases h with
  | same =>
      cases Store.recordOf (read .notRecord) doc with
      | none => exact .none
      | some s => exact .some (.refl side s)
  | @side doc other there valid shared =>
      by_cases hthere : Store.content doc = []
      · rw [recordOf_nil hthere, recordOf_nil (there.mp hthere)]
        exact .none
      · rw [recordOf_some hthere, recordOf_some (mt there.mpr hthere)]
        cases hread : read .notRecord (.object (Store.content doc)) with
        | ok s =>
            obtain ⟨found, hfound, hsame⟩ := read_of_shared hread valid.2 shared
            rw [hfound]
            exact .some hsame
        | failed faults =>
            cases hother : read .notRecord (.object (Store.content other)) with
            | ok s =>
                obtain ⟨found, hfound, -⟩ :=
                  read_of_shared hother valid.1 fun name hname =>
                    (shared name hname).symm
                rw [hread] at hfound
                cases hfound
            | failed _ => exact .none

/-- Settings that differ on a side permit the same triggers. -/
theorem SameBut.permits {side : Channel} {s other : Settings}
    (h : s.SameBut side other) (trigger : String) :
    s.permits trigger = other.permits trigger := by
  have hallows : (s.withSide side other).allows = s.allows := by
    funext t
    cases side <;> cases t <;> rfl
  rw [h] at hallows
  unfold Settings.permits
  rw [hallows]

/-- Settings that differ on a side switch the other channel alike. -/
theorem SameBut.enables {side channel : Channel} {s other : Settings}
    (h : s.SameBut side other) (hne : channel ≠ side) :
    s.enables channel = other.enables channel := by
  have henables : (s.withSide side other).enables channel =
      s.enables channel := by
    cases side <;> cases channel <;> first | rfl | exact absurd rfl hne
  rw [h] at henables
  exact henables.symm

end Settings

/-- The letter of a channel is written alike by settings that differ on the
side of the other one. -/
theorem Template.letter_of_sameBut {side channel : Channel} {s other : Settings}
    (h : s.SameBut side other) (hne : channel ≠ side) (t : Template)
    (mark : String → String) (data : Fields) (recipient : String) :
    t.letter channel mark s data recipient =
      t.letter channel mark other data recipient := by
  have hletter : t.letter channel mark (s.withSide side other) data recipient =
      t.letter channel mark s data recipient := by
    cases side <;> cases channel <;> first | rfl | exact absurd rfl hne
  rw [h] at hletter
  exact hletter.symm

/-! ## Worlds that differ on a side -/

/-- The client of a channel. -/
def Channel.client : Channel → Collaborator
  | .email => .email
  | .sms => .sms

/-- Options that differ at most in what they say of a channel: they exclude the
other one alike and force the same recipient on it. -/
def SendOptions.DiffersOn (side : Channel) (options other : SendOptions) :
    Prop :=
  ∀ channel, channel ≠ side →
    channel.isExcluded options = channel.isExcluded other ∧
      channel.forced options = channel.forced other

namespace World

/-- The template documents that are not of a channel. -/
def templatesBut (w : World) (side : Channel) : List Fields :=
  w.templates.filter fun doc => !Store.hasText "type" side.word doc

/-- Two worlds that differ at most on the side of a channel: in its fields of
the settings, its templates, its client, its account and its provider.  The ids
of the log may be others, too. -/
structure DiffersOn (side : Channel) (w v : World) : Prop where
  settings : Settings.DiffersOn side w.settings v.settings
  templates : w.templatesBut side = v.templatesBut side
  outage : w.outage = v.outage
  faults : ∀ c, c ≠ side.client → w.faults c = v.faults c
  mail : side ≠ .email → w.email = v.email ∧ w.mailServer = v.mailServer
  texts : side ≠ .sms → w.sms = v.sms ∧ w.smsProvider = v.smsProvider
  hook : w.hook = v.hook
  now : w.now = v.now

/-- A world differs from itself on no side. -/
theorem DiffersOn.refl (side : Channel) (w : World) : w.DiffersOn side w where
  settings := .same _
  templates := rfl
  outage := rfl
  faults _ _ := rfl
  mail _ := ⟨rfl, rfl⟩
  texts _ := ⟨rfl, rfl⟩
  hook := rfl
  now := rfl

variable {side : Channel} {w v : World}

/-- The stores of two worlds that differ on a side find settings
that differ on that side. -/
theorem DiffersOn.settings? (h : w.DiffersOn side v) :
    Option.Rel (Settings.SameBut side) w.settings? v.settings? := by
  unfold World.settings?
  rw [← h.outage]
  cases w.outage.settings with
  | true => exact .none
  | false => exact h.settings.recordOf

/-- A field that is a certain text is there. -/
theorem get?_of_hasText {name text : String} {doc : Fields}
    (h : Store.hasText name text doc = true) :
    doc.get? name = some (.string text) := by
  unfold Store.hasText at h
  split at h
  · next s hs => rw [hs, beq_iff_eq.mp h]
  · cases h

/-- A field has one text. -/
theorem hasText_unique {name text other : String} {doc : Fields}
    (htext : Store.hasText name text doc = true)
    (hother : Store.hasText name other doc = true) :
    text = other := by
  have hsame := (get?_of_hasText htext).symm.trans (get?_of_hasText hother)
  simpa using hsame

/-- The first template of a channel is not among those of the other one. -/
theorem find?_templatesBut (w : World) {channel : Channel}
    (hne : channel ≠ side) (trigger : String) :
    (w.templatesBut side).find? (fun doc =>
      Store.hasText "type" channel.word doc &&
        Store.hasText "trigger" trigger doc) =
    w.templates.find? fun doc =>
      Store.hasText "type" channel.word doc &&
        Store.hasText "trigger" trigger doc := by
  unfold templatesBut
  rw [List.find?_filter]
  congr 1
  funext doc
  cases htype : Store.hasText "type" channel.word doc with
  | false => simp
  | true =>
      have hother : Store.hasText "type" side.word doc = false := by
        by_contra hsame
        have hword := hasText_unique htype (by simpa using hsame)
        revert hword
        cases channel <;> cases side <;> first | exact absurd rfl hne | decide
      simp [hother]

/-- The template store finds the same templates of a channel in two worlds that
differ on the other side. -/
theorem DiffersOn.template? (h : w.DiffersOn side v) {channel : Channel}
    (hne : channel ≠ side) (trigger : String) :
    w.template? channel trigger = v.template? channel trigger := by
  unfold World.template? Store.template? Store.findTemplate?
  rw [← h.outage]
  congr 2
  rw [← w.find?_templatesBut hne, ← v.find?_templatesBut hne, h.templates]

end World

end Notices
