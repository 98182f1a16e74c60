import Notices.Proofs.Replacement
import Notices.Service.Delivery
import Mathlib.Tactic.Push

/-!
# What can be written

A value with an integer that is too long cannot be written, and neither can a
template that it is to be filled into, nor an entry of the log that it links to
a business record.  Here the passes and readers that may fail are compared with
those that spell everything out.

* `infix_cases` says where a placeholder stands in a text that is cut at its
  first two opening braces.
* `render?_of_isFillable` and `render?_of_not_isFillable` say that a template is
  rendered, unless it has the placeholder of a value that cannot be written.
* `Links.ofContext_of_areWritable` and `Links.ofContext_of_not_areWritable` say
  the same of the business records.
-/

namespace Notices

/-! ## Data -/

/-- A field that is there and not null is there. -/
theorem Fields.get?_of_present? {fields : Fields} {name : String} {v : Value}
    (h : fields.present? name = some v) : fields.get? name = some v := by
  unfold present? at h
  split at h
  · cases h
  · exact h

/-- A field of data that can be written has a value that can. -/
theorem Value.isWritable_of_present? {data : Fields} {name : String} {v : Value}
    (h : fieldsAreWritable data = true) (hv : data.present? name = some v) :
    v.isWritable = true := by
  have hget := Fields.get?_of_present? hv
  clear hv
  induction data with
  | nil => cases hget
  | cons field rest ih =>
      obtain ⟨key, u⟩ := field
      obtain ⟨hu, hrest⟩ : u.isWritable = true ∧
          fieldsAreWritable rest = true := by
        simpa [fieldsAreWritable] using h
      by_cases hkey : key = name
      · obtain rfl : u = v := by simpa [Fields.get?, hkey] using hget
        exact hu
      · exact ih hrest (by simpa [Fields.get?, hkey] using hget)

/-! ## Templates -/

namespace Markup

open Text

/-- A placeholder in a text stands at the first two opening braces or behind the
first one of them. -/
theorem infix_cases {t before inside name : List Char}
    (hcut : cut opening t = some (before, inside))
    (hpart : placeholder name <:+: t) :
    (∃ rest, inside = name ++ closing ++ rest) ∨
      ∃ c front rest,
        opening ++ inside = c :: front ++ placeholder name ++ rest := by
  obtain ⟨early, late, ht⟩ := hpart
  have hwhole : t = early ++ opening ++ (name ++ closing ++ late) := by
    rw [← ht]
    simp [placeholder]
  have hlength : before.length ≤ early.length := length_before_le hcut hwhole
  have hsame : before ++ (opening ++ inside) = early ++
      (opening ++ (name ++ closing ++ late)) := by
    rw [← List.append_assoc, ← eq_append_of_cut hcut, hwhole, List.append_assoc]
  obtain ⟨front, rfl⟩ : ∃ front, early = before ++ front := by
    have hboth : before <+: early ++ (opening ++ (name ++ closing ++ late)) :=
      ⟨opening ++ inside, hsame⟩
    obtain ⟨front, hfront⟩ :=
      List.prefix_of_prefix_length_le hboth (List.prefix_append ..) hlength
    exact ⟨front, hfront.symm⟩
  rw [List.append_assoc] at hsame
  have hbehind := List.append_cancel_left hsame
  cases front with
  | nil => exact Or.inl ⟨late, List.append_cancel_left hbehind⟩
  | cons c front =>
      exact Or.inr ⟨c, front, late, by rw [hbehind]; simp [placeholder]⟩

section Pass

variable {ε : Type} {written : List Char → Option (Except ε (List Char))}
  {fill : List Char → Option (List Char)} {t name : List Char}

/-- What the pass that may fail does, without the facts that make it end. -/
theorem substitute?_eq (written : List Char → Option (Except ε (List Char)))
    (t : List Char) :
    substitute? written t =
      match cut opening t with
      | none => .ok t
      | some (before, inside) =>
        match cut closing inside with
        | none => .ok t
        | some (name, after) =>
          match filled written name with
          | some attempted => do
            let text ← attempted
            return before ++ text ++ (← substitute? written after)
          | none =>
            do return before ++
              '{' :: (← substitute? written ('{' :: inside)) := by
  fun_cases substitute? written t with
  | case1 hcut => simp only [hcut]
  | case2 before inside hcut hclose => simp only [hcut, hclose]
  | case3 before inside hcut name after hclose attempted hfilled =>
      simp only [hcut, hclose, hfilled]
  | case4 before inside hcut name after hclose hfilled =>
      simp only [hcut, hclose, hfilled]

/-- What stands between two opening braces and the closing ones is a
placeholder, if it is a name. -/
theorem placeholder_infix_of_cut {before inside after : List Char}
    (hcut : cut opening t = some (before, inside))
    (hclose : cut closing inside = some (name, after)) :
    placeholder name <:+: t := by
  refine ⟨before, after, ?_⟩
  rw [eq_append_of_cut hcut, eq_append_of_cut hclose]
  simp [placeholder]

/-- The pass that may fail is the first pass if there is a text for each
placeholder of the template that is to be replaced. -/
theorem substitute?_eq_ok
    (h : ∀ name, isName name = true → placeholder name <:+: t →
      written name = (fill name).map .ok) :
    substitute? written t = .ok (substitute fill t) := by
  have hfilled : ∀ name, placeholder name <:+: t →
      filled written name = (filled fill name).map .ok := by
    intro name hpart
    unfold filled
    by_cases hname : isName name = true
    · simp only [hname, if_true, h name hname hpart]
    · simp only [hname]
      rfl
  clear h
  fun_induction substitute fill t with
  | case1 t hcut =>
      rw [substitute?_eq]
      simp only [hcut]
  | case2 t before inside hcut hclose =>
      rw [substitute?_eq]
      simp only [hcut, hclose]
  | case3 t before inside hcut name after hclose text hfound ih =>
      have hbehind : after <:+ t := by
        rw [eq_append_of_cut hcut, eq_append_of_cut hclose]
        exact (List.suffix_append ..).trans (List.suffix_append ..)
      have hhere := hfilled name (placeholder_infix_of_cut hcut hclose)
      have hrest :=
        ih fun other hpart => hfilled other (hpart.trans hbehind.isInfix)
      rw [substitute?_eq]
      simp only [hcut, hclose, hhere, hfound, Option.map_some, hrest]
      rfl
  | case4 t before inside hcut name after hclose hfound ih =>
      have hbehind : '{' :: inside <:+ t := by
        rw [eq_append_of_cut hcut, List.append_assoc]
        exact (List.suffix_cons ..).trans (List.suffix_append ..)
      have hhere := hfilled name (placeholder_infix_of_cut hcut hclose)
      have hrest :=
        ih fun other hpart => hfilled other (hpart.trans hbehind.isInfix)
      rw [substitute?_eq]
      simp only [hcut, hclose, hhere, hfound, Option.map_none, hrest]
      rfl

/-- A placeholder in a text that is cut at its first placeholder is that one,
or it stands behind it. -/
theorem eq_or_infix_after {before inside other after : List Char}
    (hcut : cut opening t = some (before, inside))
    (hclose : cut closing inside = some (other, after))
    (hother : isName other = true) (hname : isName name = true)
    (hpart : placeholder name <:+: t) :
    name = other ∨ placeholder name <:+: after := by
  rcases infix_cases hcut hpart with ⟨rest, hrest⟩ | ⟨c, front, rest, hrest⟩
  · left
    rw [hrest, cut_closing_of_isName hname] at hclose
    exact (Prod.mk.inj (Option.some.inj hclose)).1
  · right
    have hwhole : c :: front ++ placeholder name ++ rest = placeholder other ++
        after := by
      rw [← hrest, eq_append_of_cut hclose]
      simp [placeholder]
    obtain ⟨between, -, hafter⟩ :=
      placeholder_ends_before hother (List.cons_ne_nil c front) hwhole
    exact ⟨between, rest, hafter.symm⟩

/-- A placeholder in a text that is cut at two opening braces which open none
stands behind the first of them. -/
theorem infix_behind_brace {before inside : List Char}
    (hcut : cut opening t = some (before, inside))
    (hnot : ∀ rest, inside ≠ name ++ closing ++ rest)
    (hpart : placeholder name <:+: t) :
    placeholder name <:+: '{' :: inside := by
  rcases infix_cases hcut hpart with ⟨rest, hrest⟩ | ⟨c, front, rest, hrest⟩
  · exact absurd hrest (hnot rest)
  · exact ⟨front, rest, (List.cons.inj hrest).2.symm⟩

/-- A text with a placeholder is not left as it is at its first two opening
braces for want of closing ones. -/
theorem cut_closing_ne_none {before inside : List Char}
    (hcut : cut opening t = some (before, inside))
    (hpart : placeholder name <:+: t) :
    cut closing inside ≠ none := by
  intro hclose
  have hnone : cut closing ('{' :: inside) = none := by
    rw [cut_cons (by simp [closing]), hclose]
    rfl
  have hrest : ∀ rest, inside ≠ name ++ closing ++ rest := by
    rintro rest rfl
    exact cut_eq_none_iff.mp hclose ⟨name, rest, rfl⟩
  have hclosing : closing <:+: placeholder name :=
    (List.suffix_append ..).isInfix
  exact cut_eq_none_iff.mp hnone
    (hclosing.trans (infix_behind_brace hcut hrest hpart))

/-- The pass that may fail does so if there is a placeholder in the template
whose text cannot be written, and if there is only one way to fail. -/
theorem substitute?_eq_error {f : ε}
    (honly : ∀ other g, written other = some (.error g) → g = f)
    (hname : isName name = true) (hpart : placeholder name <:+: t)
    (hfails : written name = some (.error f)) :
    substitute? written t = .error f := by
  fun_induction substitute? written t with
  | case1 t hcut =>
      have hopening : opening <:+: placeholder name :=
        ⟨[], name ++ closing, by simp [placeholder]⟩
      exact absurd (hopening.trans hpart) (cut_eq_none_iff.mp hcut)
  | case2 t before inside hcut hclose =>
      exact absurd hclose (cut_closing_ne_none hcut hpart)
  | case3 t before inside hcut other after hclose attempted hfound ih =>
      obtain ⟨hother, hattempted⟩ : isName other = true ∧
          written other = some attempted := by
        simpa [filled] using hfound
      cases attempted with
      | error g =>
          rw [honly other g hattempted]
          rfl
      | ok text =>
          rcases eq_or_infix_after hcut hclose hother hname hpart with
            rfl | hafter
          · rw [hfails] at hattempted
            cases hattempted
          · rw [ih hafter]
            rfl
  | case4 t before inside hcut other after hclose hfound ih =>
      have hrest : ∀ rest, inside ≠ name ++ closing ++ rest := by
        rintro rest rfl
        rw [cut_closing_of_isName hname] at hclose
        obtain ⟨rfl, -⟩ := Prod.mk.inj (Option.some.inj hclose)
        simp [filled, hname, hfails] at hfound
      rw [ih (infix_behind_brace hcut hrest hpart)]
      rfl

end Pass

/-! ## Rendering -/

section Rendering

variable {escape : List Char → List Char} {data : Fields} {t : List Char}

/-- A template can be filled in with data if the values for its
placeholders can be written. -/
def IsFillable (data : Fields) (t : List Char) : Prop :=
  ∀ name v, isName name = true → placeholder name <:+: t →
    data.present? (String.ofList name) = some v → v.isWritable = true

/-- Any template can be filled in with data that can be written. -/
theorem isFillable_of_fieldsAreWritable
    (h : Value.fieldsAreWritable data = true) (t : List Char) :
    IsFillable data t :=
  fun _ _ _ _ hv => Value.isWritable_of_present? h hv

/-- The first pass does not fail for a template that can be filled in. -/
theorem fillIn?_of_isFillable (h : IsFillable data t) :
    fillIn? escape data t = .ok (fillIn escape data t) := by
  apply substitute?_eq_ok
  intro name hname hpart
  unfold insertion? insertion
  cases hv : data.present? (String.ofList name) with
  | none => rfl
  | some v =>
      simp only [Option.map_some,
        Value.write_of_isWritable (h name v hname hpart hv)]
      rfl

/-- The first pass fails for any other template. -/
theorem fillIn?_of_not_isFillable (h : ¬ IsFillable data t) :
    fillIn? escape data t = .error Value.tooLong := by
  unfold IsFillable at h
  push Not at h
  obtain ⟨name, v, hname, hpart, hv, hlong⟩ := h
  have hwrite : v.write = .error Value.tooLong :=
    Value.write_of_not_isWritable (by simpa using hlong)
  refine substitute?_eq_error (fun other f hother => ?_) hname hpart ?_
  · obtain ⟨u, -, hu⟩ := Option.map_eq_some_iff.mp hother
    by_cases hshort : u.isWritable = true
    · rw [Value.write_of_isWritable hshort] at hu
      cases hu
    · rw [Value.write_of_not_isWritable (by simpa using hshort)] at hu
      exact (Except.error.inj hu).symm
  · simp only [insertion?, hv, Option.map_some, hwrite]
    rfl

/-- A template that can be filled in is rendered. -/
theorem render?_of_isFillable (h : IsFillable data t) :
    render? escape data t = .ok (render escape data t) := by
  rw [render?, fillIn?_of_isFillable h]
  rfl

/-- Rendering fails for any other template. -/
theorem render?_of_not_isFillable (h : ¬ IsFillable data t) :
    render? escape data t = .error Value.tooLong := by
  rw [render?, fillIn?_of_not_isFillable h]
  rfl

end Rendering

end Markup

namespace Template

variable {t : Template} {channel : Channel} {data : Fields}

/-- The parts of a template that are filled in on a channel. -/
def parts (t : Template) : Channel → List (Option String)
  | .email => [t.subject, t.html, t.text]
  | .sms => [t.smsBody]

/-- A template can be filled in on a channel if all its parts can. -/
def IsFillable (t : Template) (channel : Channel) (data : Fields) : Prop :=
  ∀ part ∈ t.parts channel, Markup.IsFillable data (part.getD "").toList

end Template

/-! ## Business records -/

namespace Links

variable {context : Fields}

/-- The fields that name business records. -/
def names : List String :=
  ["customer_id", "invoice_id", "shipment_id", "release_id"]

/-- The business records of data can be written if all their ids can. -/
def AreWritable (context : Fields) : Prop :=
  ∀ name ∈ names, ∀ v, context.present? name = some v → v.isWritable = true

/-- The business records of data, with their ids spelled out. -/
def spelled (context : Fields) : Links where
  customer := textOf context "customer_id"
  invoice := textOf context "invoice_id"
  shipment := textOf context "shipment_id"
  release := textOf context "release_id"

/-- An id is written if it can be. -/
theorem write_of_isWritable {name : String}
    (h : ∀ v, context.present? name = some v → v.isWritable = true) :
    write context name = .ok (textOf context name) := by
  unfold write textOf
  cases hv : context.present? name with
  | none => rfl
  | some v =>
      dsimp only
      rw [Value.write_of_isWritable (h v hv)]
      rfl

/-- An id that cannot be written is a failure. -/
theorem write_of_not_isWritable {name : String} {v : Value}
    (hv : context.present? name = some v) (hlong : v.isWritable = false) :
    write context name = .error Value.tooLong := by
  unfold write
  rw [hv]
  dsimp only
  rw [Value.write_of_not_isWritable hlong]
  rfl

/-- Business records that can be written are read off the data. -/
theorem ofContext_of_areWritable (h : AreWritable context) :
    ofContext context = .ok (spelled context) := by
  have hwrite : ∀ name ∈ names,
      write context name = .ok (textOf context name) :=
    fun name hname => write_of_isWritable (h name hname)
  unfold ofContext
  rw [hwrite "customer_id" (by decide), hwrite "invoice_id" (by decide),
    hwrite "shipment_id" (by decide), hwrite "release_id" (by decide)]
  rfl

/-- Reading business records off the data fails if one of them cannot be
written. -/
theorem ofContext_of_not_areWritable (h : ¬ AreWritable context) :
    ofContext context = .error Value.tooLong := by
  have hwrite : ∀ name, write context name = .ok (textOf context name) ∨
      write context name = .error Value.tooLong := by
    intro name
    by_cases hshort : ∀ v, context.present? name = some v → v.isWritable = true
    · exact Or.inl (write_of_isWritable hshort)
    · push Not at hshort
      obtain ⟨v, hv, hlong⟩ := hshort
      exact Or.inr (write_of_not_isWritable hv (by simpa using hlong))
  have hsome : ¬ ∀ name ∈ names, write context name =
      .ok (textOf context name) := by
    intro hall
    apply h
    intro name hname v hv
    by_cases hshort : v.isWritable = true
    · exact hshort
    · have hfails := write_of_not_isWritable hv (by simpa using hshort)
      rw [hall name hname] at hfails
      cases hfails
  unfold ofContext
  -- the ids are written in their order, and the first that cannot be is the
  -- failure
  rcases hwrite "customer_id" with hcustomer | hcustomer
  · rcases hwrite "invoice_id" with hinvoice | hinvoice
    · rcases hwrite "shipment_id" with hshipment | hshipment
      · rcases hwrite "release_id" with hrelease | hrelease
        · exact absurd (by simp [names, hcustomer, hinvoice, hshipment,
            hrelease]) hsome
        · rw [hcustomer, hinvoice, hshipment, hrelease]
          rfl
      · rw [hcustomer, hinvoice, hshipment]
        rfl
    · rw [hcustomer, hinvoice]
      rfl
  · rw [hcustomer]
    rfl

end Links

end Notices
