import Mathlib.Data.List.Nodup
import Notices.Proofs.Absence

/-!
# What a template sees of the data

A template sees of the data what was given for it, without the fields that are
null.  A known field takes a text or a number as it is, and a yes or no as the
number one or zero; a further field takes anything as it is.

* `NoticeData.read_eq_ok_iff` says which fields are read as data, and as which.
* `NoticeData.mem_context_iff` says which fields a template sees, and
  `NoticeData.given_context` what it is given for a known one.
* `context_is_what_was_given` says it of both, and that what a template sees is
  read as data of which a template sees the same.
-/

namespace Notices

/-! ## Scalars -/

namespace Value

/-- Whether a known field takes a value. -/
def isScalar : Value → Bool
  | .list _ | .object _ | .time _ => false
  | _ => true

/-- A value as a known field takes it: a yes is the number one and a no is
zero. -/
def asScalar : Value → Value
  | .bool b => .int (if b then 1 else 0)
  | v => v

/-- What a known field took is taken as it is. -/
theorem asScalar_asScalar (v : Value) : v.asScalar.asScalar = v.asScalar := by
  cases v <;> rfl

/-- What a known field took is taken again. -/
theorem isScalar_asScalar {v : Value} (h : v.isScalar = true) :
    v.asScalar.isScalar = true := by
  cases v with
  | list | object | time => cases h
  | null | bool | int | real | string => rfl

/-- Only null is taken as null. -/
theorem isNull_asScalar (v : Value) :
    NoticeData.isNull v.asScalar = NoticeData.isNull v := by
  cases v <;> rfl

end Value

/-- A value counts as null only if it is. -/
theorem NoticeData.isNull_eq_false_iff {v : Value} :
    isNull v = false ↔ v ≠ .null := by
  cases v <;> simp [isNull]

/-- A known field takes exactly the scalars. -/
theorem Record.scalar_eq_ok_iff {v taken : Value} :
    scalar v = .ok taken ↔ v.isScalar = true ∧ taken = v.asScalar := by
  cases v <;> simp [scalar, Value.isScalar, Value.asScalar, eq_comm]

/-- A path in front of the faults does not change what is read. -/
theorem Checked.under_eq_ok_iff {α : Type} {step : Step} {c : Checked α}
    {a : α} :
    c.under step = .ok a ↔ c = .ok a := by
  cases c with
  | ok b => rfl
  | failed faults => exact ⟨nofun, nofun⟩

/-! ## Fields with different names -/

namespace Fields

variable {fields : Fields} {name : String} {v : Value}

/-- The value that is given for a name, and null if there is none. -/
def given (fields : Fields) (name : String) : Value :=
  (fields.get? name).getD .null

/-- If all names are different, a field reads as a value exactly if it is
there with that value. -/
theorem get?_eq_some_iff (hnames : (fields.map Prod.fst).Nodup) :
    fields.get? name = some v ↔ (name, v) ∈ fields := by
  refine ⟨mem_of_get?, fun hmem => ?_⟩
  induction fields with
  | nil => cases hmem
  | cons field rest ih =>
      obtain ⟨hfresh, hrest⟩ := List.nodup_cons.mp hnames
      rcases List.mem_cons.mp hmem with rfl | hmem
      · simp [get?]
      · have hne : field.1 ≠ name :=
          fun heq => hfresh (heq ▸ List.mem_map_of_mem hmem)
        simpa [get?, hne] using ih hrest hmem

/-- If all names are different, a value other than null is given for a name
exactly if it is there. -/
theorem given_eq_iff (hnames : (fields.map Prod.fst).Nodup) (hv : v ≠ .null) :
    fields.given name = v ↔ (name, v) ∈ fields := by
  rw [← get?_eq_some_iff hnames, given]
  cases fields.get? name with
  | none => simp [hv.symm]
  | some found => simp

end Fields

namespace NoticeData

variable {fields known : Fields} {names : List String} {name : String}
    {v : Value} {otherwise : FaultKind}
  {data : NoticeData}

/-! ## Reading data -/

/-- A known field can be read if what is given for it is a scalar, and null is
given if it is left out. -/
theorem readField_eq_ok_iff {taken : Value} :
    Record.withDefault fields name .null Record.scalar = .ok taken ↔
      (fields.given name).isScalar = true ∧
      taken = (fields.given name).asScalar := by
  unfold Record.withDefault Fields.given
  cases fields.get? name with
  | none => simp [Value.isScalar, Value.asScalar, eq_comm]
  | some found =>
      simp only [Checked.under_eq_ok_iff, Record.scalar_eq_ok_iff,
        Option.getD_some]

/-- Known fields are read one by one. -/
theorem readKnown_eq_ok_iff :
    readKnown fields names = .ok known ↔
      (∀ name ∈ names, (fields.given name).isScalar = true) ∧
        known = names.map fun name => (name, (fields.given name).asScalar) := by
  induction names generalizing known with
  | nil =>
      exact ⟨fun h => ⟨nofun, (Checked.ok.inj h).symm⟩,
        fun h => congrArg Checked.ok h.2.symm⟩
  | cons name rest ih =>
      simp only [readKnown, Checked.seq_eq_ok_iff, Checked.map_eq_ok_iff,
        readField_eq_ok_iff, ih, List.forall_mem_cons, List.map_cons]
      constructor
      · rintro ⟨_, ⟨_, ⟨hfirst, rfl⟩, rfl⟩, _, ⟨hrest, rfl⟩, rfl⟩
        exact ⟨⟨hfirst, hrest⟩, rfl⟩
      · rintro ⟨⟨hfirst, hrest⟩, rfl⟩
        exact ⟨_, ⟨_, ⟨hfirst, rfl⟩, rfl⟩, _, ⟨hrest, rfl⟩, rfl⟩

/-- The known fields of data, with what they take of some fields. -/
def knownOf (fields : Fields) : Fields :=
  knownNames.map fun name => (name, (fields.given name).asScalar)

/-- The further fields among some fields. -/
def furtherOf (fields : Fields) : Fields :=
  fields.filter fun field => !knownNames.contains field.1

/-- Fields are read as data if what is given for the known ones are scalars.
These come first, and then the further ones as they are. -/
theorem read_eq_ok_iff :
    read otherwise (.object fields) = .ok data ↔
      (∀ name ∈ knownNames, (fields.given name).isScalar = true) ∧
        data = ⟨knownOf fields ++ furtherOf fields⟩ := by
  simp only [read, Record.fieldsOf, Checked.andThen]
  constructor
  · intro h
    cases hread : readKnown fields knownNames with
    | failed faults =>
        rw [hread] at h
        cases h
    | ok known =>
        obtain ⟨hscalar, rfl⟩ := readKnown_eq_ok_iff.mp hread
        rw [hread] at h
        exact ⟨hscalar, (Checked.ok.inj h).symm⟩
  · rintro ⟨hscalar, rfl⟩
    rw [readKnown_eq_ok_iff.mpr ⟨hscalar, rfl⟩]
    rfl

/-! ## What a template sees -/

/-- A value as the data takes it: in a known field a yes is the number one and a
no is zero, and anything else is taken as it is. -/
def taken (name : String) (v : Value) : Value :=
  if name ∈ knownNames then v.asScalar else v

/-- A known field has what the data took of the fields. -/
theorem mem_knownOf_iff :
    (name, v) ∈ knownOf fields ↔
      name ∈ knownNames ∧ v = (fields.given name).asScalar := by
  simp only [knownOf, List.mem_map, Prod.mk.injEq]
  constructor
  · rintro ⟨_, hname, rfl, rfl⟩
    exact ⟨hname, rfl⟩
  · rintro ⟨hname, rfl⟩
    exact ⟨name, hname, rfl, rfl⟩

/-- A further field is one that was given and is not known. -/
theorem mem_furtherOf_iff :
    (name, v) ∈ furtherOf fields ↔ name ∉ knownNames ∧ (name, v) ∈ fields := by
  simp [furtherOf, and_comm]

/-- The names of data are different if those of the fields that it was read from
are. -/
theorem nodup_names (hnames : (fields.map Prod.fst).Nodup) :
    ((knownOf fields ++ furtherOf fields).map Prod.fst).Nodup := by
  have hknown : (knownOf fields).map Prod.fst = knownNames := by
    simp [knownOf, Function.comp_def]
  rw [List.map_append, hknown]
  refine List.nodup_append.mpr ⟨by
    decide, hnames.sublist (List.filter_sublist.map Prod.fst), ?_⟩
  rintro name hname _ hfurther rfl
  obtain ⟨field, hfield, rfl⟩ := List.mem_map.mp hfurther
  exact (mem_furtherOf_iff.mp hfield).1 hname

/-- A template sees exactly the fields that were given and are not null, each
as the data takes it. -/
theorem mem_context_iff (hnames : (fields.map Prod.fst).Nodup)
    (h : read otherwise (.object fields) = .ok data) :
    (name, v) ∈ data.context ↔ ∃ given, (name, given) ∈ fields ∧ given ≠ .null ∧
      v = taken name given := by
  obtain ⟨-, rfl⟩ := read_eq_ok_iff.mp h
  simp only [context, List.mem_filter, List.mem_append, mem_knownOf_iff,
    mem_furtherOf_iff, taken]
  by_cases hname : name ∈ knownNames
  · simp only [hname, true_and, not_true, false_and, or_false, if_true]
    constructor
    · rintro ⟨rfl, hthere⟩
      have hne : fields.given name ≠ .null := by
        simpa [Value.isNull_asScalar, isNull_eq_false_iff] using hthere
      exact ⟨_, (Fields.given_eq_iff hnames hne).mp rfl, hne, rfl⟩
    · rintro ⟨given, hmem, hne, rfl⟩
      obtain rfl := (Fields.given_eq_iff hnames hne).mpr hmem
      exact ⟨rfl, by
        simpa [Value.isNull_asScalar, isNull_eq_false_iff] using hne⟩
  · simp only [hname, false_and, false_or, not_false_eq_true, true_and,
      if_false]
    constructor
    · rintro ⟨hmem, hthere⟩
      exact ⟨v, hmem, by simpa [isNull_eq_false_iff] using hthere, rfl⟩
    · rintro ⟨given, hmem, hne, rfl⟩
      exact ⟨hmem, by simpa [isNull_eq_false_iff] using hne⟩

/-- The names that a template sees are different. -/
theorem nodup_names_context (hnames : (fields.map Prod.fst).Nodup)
    (h : read otherwise (.object fields) = .ok data) :
    (data.context.map Prod.fst).Nodup := by
  obtain ⟨-, rfl⟩ := read_eq_ok_iff.mp h
  exact (nodup_names hnames).sublist (List.filter_sublist.map Prod.fst)

/-- What a template is given for a known field is what the data took. -/
theorem given_context (hnames : (fields.map Prod.fst).Nodup)
    (h : read otherwise (.object fields) = .ok data)
    (hname : name ∈ knownNames) :
    data.context.given name = (fields.given name).asScalar := by
  have hcontext := nodup_names_context hnames h
  by_cases hnull : fields.given name = .null
  · rw [hnull, Fields.given, Fields.get?_eq_none_iff.mpr]
    · rfl
    · rintro ⟨_, v⟩ hmem rfl
      obtain ⟨given, hgiven, hne, -⟩ := (mem_context_iff hnames h).mp hmem
      exact hne (((Fields.given_eq_iff hnames hne).mpr hgiven).symm.trans hnull)
  · have hne : (fields.given name).asScalar ≠ .null := by
      rwa [← isNull_eq_false_iff, Value.isNull_asScalar, isNull_eq_false_iff]
    rw [Fields.given_eq_iff hcontext hne, mem_context_iff hnames h]
    exact ⟨_, (Fields.given_eq_iff hnames hnull).mp rfl, hnull, by
      rw [taken, if_pos hname]⟩

/-- What a template sees is read as data, of which a template sees the same. -/
theorem read_context (hnames : (fields.map Prod.fst).Nodup)
    (h : read otherwise (.object fields) = .ok data) :
    ∃ again, read otherwise (.object data.context) = .ok again ∧
      again.context = data.context := by
  have hgiven : ∀ name ∈ knownNames,
      data.context.given name = (fields.given name).asScalar :=
    fun name hname => given_context hnames h hname
  obtain ⟨hscalar, hdata⟩ := read_eq_ok_iff.mp h
  have hknown : knownOf data.context = knownOf fields := by
    refine List.map_congr_left fun name hname => ?_
    rw [hgiven name hname, Value.asScalar_asScalar]
  have hfurther : furtherOf data.context =
      (furtherOf fields).filter fun field => !isNull field.2 := by
    have hnone : (knownOf fields).filter
        (fun field => !knownNames.contains field.1) = [] := by
      refine List.filter_eq_nil_iff.mpr fun field hfield => ?_
      simp [(mem_knownOf_iff.mp hfield).1]
    rw [hdata, furtherOf, context, List.filter_filter,
      List.filter_congr (fun _ _ => Bool.and_comm _ _),
      ← List.filter_filter, List.filter_append, hnone, List.nil_append,
        furtherOf, List.filter_filter]
    simp
  refine ⟨⟨knownOf data.context ++ furtherOf data.context⟩, ?_, ?_⟩
  · refine read_eq_ok_iff.mpr ⟨fun name hname => ?_, rfl⟩
    rw [hgiven name hname]
    exact Value.isScalar_asScalar (hscalar name hname)
  · rw [hknown, hfurther, hdata]
    simp [context, List.filter_append, List.filter_filter]

end NoticeData

/-- **A template sees what was given.**  The fields of an object, which have
different names, are read as the data of a notice.  Then a template sees exactly
the fields that were given and are not null, known ones and further ones alike.
Each has the value that was given, except that a yes or no in a known field is
the number one or zero.  What a template sees is an object again, which is read
as data, and a template sees the same of it. -/
theorem context_is_what_was_given {otherwise : FaultKind} {fields : Fields}
    {data : NoticeData} (hnames : (fields.map Prod.fst).Nodup)
    (h : NoticeData.read otherwise (.object fields) = .ok data) :
    (∀ name v, (name, v) ∈ data.context ↔
      ∃ given, (name, given) ∈ fields ∧ given ≠ .null ∧
        v = NoticeData.taken name given) ∧
    (data.context.map Prod.fst).Nodup ∧
    ∃ again, NoticeData.read otherwise (.object data.context) = .ok again ∧
      again.context = data.context :=
  ⟨fun _ _ => NoticeData.mem_context_iff hnames h,
    NoticeData.nodup_names_context hnames h,
    NoticeData.read_context hnames h⟩

/-- A yes is the number one as the id of a customer, and stays a yes as a field
that is not known.  Of the two fields that are null, neither is seen, but the
null inside a list is. -/
theorem yes_as_an_id_and_as_a_further_field :
    let fields : Fields :=
      [("is_member", .bool true), ("customer_email", .null),
        ("customer_id", .bool true), ("remark", .null),
        ("tags", .list [.null, .string "new"])]
    let data : NoticeData := ⟨NoticeData.knownNames.map (fun name =>
      (name, if name = "customer_id" then .int 1 else .null)) ++
      [("is_member", .bool true), ("remark", .null),
        ("tags", .list [.null, .string "new"])]⟩
    (fields.map Prod.fst).Nodup ∧
    NoticeData.read .notBody (.object fields) = .ok data ∧
    ("customer_id", .int 1) ∈ data.context ∧
    ("is_member", .bool true) ∈ data.context ∧
    ("tags", .list [.null, .string "new"]) ∈ data.context ∧
    (∀ v, ("customer_email", v) ∉ data.context ∧ ("remark", v) ∉ data.context) ∧
    ∃ again, NoticeData.read .notBody (.object data.context) = .ok again ∧
      again.context = data.context := by
  intro fields data
  have hnames : (fields.map Prod.fst).Nodup := by decide
  have hdata : NoticeData.read .notBody (.object fields) = .ok data := by rfl
  obtain ⟨hsees, -, hagain⟩ := context_is_what_was_given hnames hdata
  refine ⟨hnames, hdata, ?_, ?_, ?_, fun v => ⟨?_, ?_⟩, hagain⟩
  · exact (hsees _ _).mpr ⟨.bool true, by simp [fields], nofun, rfl⟩
  · exact (hsees _ _).mpr ⟨.bool true, by simp [fields], nofun, rfl⟩
  · exact (hsees _ _).mpr ⟨.list [.null, .string "new"], by
      simp [fields], nofun, rfl⟩
  · rw [hsees]
    simp [fields]
  · rw [hsees]
    simp [fields]

end Notices
