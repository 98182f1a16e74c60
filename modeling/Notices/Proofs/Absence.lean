import Notices.Proofs.Influence
import Notices.Proofs.Loss

/-!
# Fields that are null

A field of the data of a notice that is null counts as one that is not
there, wherever it is read.

* `Fields.WithNulls` says that some fields are others and, between them, further
  ones that are null, and `Fields.WithNulls.reads` what can be read of them.
* `NoticeData.read_withNulls` says that both are read as data that a
  template sees in the same way.
* `null_fields_change_nothing` says that the notices are the same.
-/

namespace Notices

namespace Fields

/-- A field that reads as a value is there with that value. -/
theorem mem_of_get? {fields : Fields} {name : String} {v : Value}
    (h : fields.get? name = some v) :
    (name, v) ∈ fields := by
  induction fields with
  | nil => cases h
  | cons field rest ih =>
      by_cases hname : field.1 = name
      · obtain rfl : field.2 = v := by simpa [get?, hname] using h
        exact hname ▸ List.mem_cons_self ..
      · exact List.mem_cons_of_mem field (ih (by simpa [get?, hname] using h))

/-- Fields are others and, anywhere between them, fields with certain
further names that are null. -/
structure WithNulls (names : List String) (fields other : Fields) : Prop where
  without : (other.filter fun field => !names.contains field.1) = fields
  null : ∀ field ∈ other, field.1 ∈ names → field.2 = .null

namespace WithNulls

variable {names : List String} {fields other : Fields}

/-- A field reads as it does without the further ones, or it is one
of these and is null. -/
theorem reads (h : WithNulls names fields other) (name : String) :
    other.get? name = fields.get? name ∨
    fields.get? name = none ∧ other.get? name = some .null := by
  have hfields := get?_filter (!names.contains ·) other name
  rw [h.without] at hfields
  by_cases hname : name ∈ names
  · have hnone : fields.get? name = none := by simpa [hname] using hfields
    cases hfound : other.get? name with
    | none => exact Or.inl hnone.symm
    | some v =>
        exact Or.inr
          ⟨hnone, congrArg some (h.null _ (mem_of_get? hfound) hname)⟩
  · exact Or.inl (by simpa [hname] using hfields.symm)

/-- The same fields are there and not null. -/
theorem present?_eq (h : WithNulls names fields other) (name : String) :
    other.present? name = fields.present? name := by
  unfold present?
  rcases h.reads name with hsame | ⟨hnone, hnull⟩
  · rw [hsame]
  · rw [hnone, hnull]

/-- A reader for which null is what is not there reads the same. -/
theorem withDefault_eq (h : WithNulls names fields other) {α : Type}
    {default : α} {read : Record.Reader α} (hnull : read .null = .ok default)
    (name : String) :
    Record.withDefault other name default read =
      Record.withDefault fields name default read := by
  unfold Record.withDefault
  rcases h.reads name with hsame | ⟨hnone, hthere⟩
  · rw [hsame]
  · rw [hnone, hthere]
    simp [hnull]

end WithNulls

end Fields

namespace Markup

variable {names : List String} {fields other : Fields}

/-- A template is rendered with the same text. -/
theorem render_withNulls (h : Fields.WithNulls names fields other)
    (escape : List Char → List Char) (template : List Char) :
    render escape other template = render escape fields template :=
  render_congr fun name _ => h.present?_eq (String.ofList name)

end Markup

section Reading

variable {names : List String} {fields other : Fields}

/-- The data names the same recipient. -/
theorem Dispatch.recipient?_withNulls (h : Fields.WithNulls names fields other)
    (forced : Option String) (name : String) :
    recipient? forced other name = recipient? forced fields name := by
  unfold recipient?
  rcases h.reads name with hsame | ⟨hnone, hnull⟩
  · rw [hsame]
  · rw [hnone, hnull]
    rfl

/-- The data names the same business records. -/
theorem Links.ofContext_withNulls (h : Fields.WithNulls names fields other) :
    Links.ofContext other = Links.ofContext fields := by
  have hwrite : Links.write other = Links.write fields := by
    funext name
    unfold Links.write
    rw [h.present?_eq]
  unfold Links.ofContext
  rw [hwrite]

namespace NoticeData

/-- The known fields are read in the same way. -/
theorem readKnown_withNulls (h : Fields.WithNulls names fields other)
    (known : List String) :
    readKnown other known = readKnown fields known := by
  have hnull : Record.scalar .null = .ok .null := rfl
  induction known with
  | nil => rfl
  | cons name known ih => rw [readKnown, readKnown, ih, h.withDefault_eq hnull]

/-- A template sees the same of further fields. -/
theorem further_withNulls (h : Fields.WithNulls names fields other) :
    (other.filter fun field => !knownNames.contains field.1).filter
      (!isNull ·.2) =
      (fields.filter fun field => !knownNames.contains field.1).filter
        (!isNull ·.2) := by
  rw [← h.without, List.filter_filter, List.filter_filter, List.filter_filter]
  refine List.filter_congr fun field hfield => ?_
  by_cases hname : field.1 ∈ names
  · simp [h.null field hfield hname, isNull]
  · simp [hname]

/-- Data with further fields that are null has the same faults, or a
template sees the same of it. -/
theorem read_withNulls (h : Fields.WithNulls names fields other)
    (otherwise : FaultKind) :
    (read otherwise (.object other)).map context =
      (read otherwise (.object fields)).map context := by
  simp only [read, Record.fieldsOf, Checked.andThen, readKnown_withNulls h]
  cases readKnown fields knownNames with
  | failed faults => rfl
  | ok known =>
      simp only [Checked.map, context, List.filter_append, further_withNulls h]

end NoticeData

end Reading

/-- A dispatch goes by what a template sees of the data. -/
theorem Dispatch.inTurns_congr {data more : NoticeData}
    (h : more.context = data.context) (picks : List Nat) (trigger : String)
    (options : SendOptions) :
    inTurns picks trigger more options =
      inTurns picks trigger data options := by
  unfold inTurns
  rw [h]

/-- A blind program that is run twice, with other ids for its documents,
comes to the same and does the same, and the log takes the same
documents but for their ids. -/
theorem World.runWhile_ids {α : Type} {p : Program α} (hp : p.IsBlind)
    (w : World) (ids : Nat → String) (clock : Nat → Timestamp) (s : State) :
    let first := w.runWhile clock 0 p s
    let second := ({ w with logIds := ids } : World).runWhile clock 0 p s
    second.1 = first.1 ∧ second.2.unlogged = first.2.unlogged ∧
      ∃ docs docs', first.2.log = s.log ++ docs ∧
        second.2.log = s.log ++ docs' ∧
        unidentified docs' = unidentified docs := by
  obtain ⟨hresult, hsame, due, docs, docs', -, hlog, hdocs, hlog', hdocs'⟩ :=
    w.abreast_runWhile w.outage.writeLog w.outage.writeLog w.logIds ids
      hp clock 0
      (rfl : s.unlogged = s.unlogged)
  exact ⟨hresult.symm, hsame.symm, docs, docs', hlog, hlog',
    hdocs'.trans hdocs.symm⟩

/-- **Null is absent.**  Some fields are those of the data of a notice, and
others have between them further fields that are null.  If the first are read as
data, so are the others, and every template is rendered with the same text under
both.  A dispatch of the one in any world, however its branches take turns and
the clock goes on, comes to the same as a dispatch of the other, what leaves the
service is the same, and so are the documents that the log takes, up to their
ids.  The fields themselves, while nulls are still among them, already give the
same texts, the same recipients and the same business records. -/
theorem null_fields_change_nothing {names : List String} {fields other : Fields}
    (h : Fields.WithNulls names fields other) (otherwise : FaultKind) :
    (∀ data, NoticeData.read otherwise (.object fields) = .ok data →
      ∃ more, NoticeData.read otherwise (.object other) = .ok more ∧
        (∀ escape template,
          Markup.render escape more.context template =
            Markup.render escape data.context template) ∧
        ∀ (w : World) (ids : Nat → String) (clock : Nat → Timestamp)
          (picks : List Nat) (trigger : String)
          (options : SendOptions) (s : State),
          let first :=
            w.runWhile clock 0 (Dispatch.inTurns picks trigger data options) s
          let second := ({ w with logIds := ids } : World).runWhile clock 0
            (Dispatch.inTurns picks trigger more options) s
          second.1 = first.1 ∧ second.2.unlogged = first.2.unlogged ∧
            ∃ docs docs', first.2.log = s.log ++ docs ∧
              second.2.log = s.log ++ docs' ∧
              unidentified docs' = unidentified docs) ∧
    (∀ escape template, Markup.render escape other template =
      Markup.render escape fields template) ∧
    (∀ forced name, Dispatch.recipient? forced other name =
      Dispatch.recipient? forced fields name) ∧
    Links.ofContext other = Links.ofContext fields := by
  refine ⟨?_, Markup.render_withNulls h, Dispatch.recipient?_withNulls h,
    Links.ofContext_withNulls h⟩
  intro data hdata
  have hread := NoticeData.read_withNulls h otherwise
  rw [hdata] at hread
  cases hmore : NoticeData.read otherwise (.object other) with
  | failed faults =>
      rw [hmore] at hread
      cases hread
  | ok more =>
      rw [hmore] at hread
      have hcontext : more.context = data.context := Checked.ok.inj hread
      refine ⟨more, rfl, fun escape template => by rw [hcontext], ?_⟩
      intro w ids clock picks trigger options s
      rw [Dispatch.inTurns_congr hcontext]
      exact w.runWhile_ids (Dispatch.isBlind_inTurns picks trigger data options)
        ids clock s

/-- The data of an invoice with a phone number and a remark that are null is
that of the invoice without them. -/
theorem null_phone_number_and_remark :
    let fields : Fields :=
      [("customer_email", .string "ana@example.com"), ("coupon", .int 5)]
    let other : Fields :=
      [("remark", .null), ("customer_email", .string "ana@example.com"),
      ("customer_phone", .null), ("coupon", .int 5)]
    let data : NoticeData := ⟨NoticeData.knownNames.map (fun name =>
      (name, if name = "customer_email" then .string "ana@example.com"
        else .null)) ++ [("coupon", .int 5)]⟩
    Fields.WithNulls ["remark", "customer_phone"] fields other ∧
    NoticeData.read .notBody (.object fields) = .ok data ∧
    ∃ more, NoticeData.read .notBody (.object other) = .ok more ∧
      ∀ (trigger : String) (options : SendOptions),
        let first := World.shop.runWhile (fun _ => World.shop.now) 0
          (Dispatch.inTurns [1, 0] trigger data options) {}
        let second := World.shop.runWhile (fun _ => World.shop.now) 0
          (Dispatch.inTurns [1, 0] trigger more options) {}
        second.1 = first.1 ∧ second.2.unlogged = first.2.unlogged := by
  intro fields other data
  have h : Fields.WithNulls ["remark", "customer_phone"] fields other := by
    refine ⟨rfl, ?_⟩
    simp [other]
  have hdata : NoticeData.read .notBody (.object fields) = .ok data := by rfl
  obtain ⟨more, hmore, -, hsame⟩ :=
    (null_fields_change_nothing h .notBody).1 data hdata
  refine ⟨h, hdata, more, hmore, fun trigger options => ?_⟩
  obtain ⟨hresult, hunlogged, -⟩ :=
    hsame World.shop World.shop.logIds (fun _ => World.shop.now) [1, 0]
    trigger options {}
  exact ⟨hresult, hunlogged⟩

end Notices
