import Notices.Markup.Render
import Notices.Proofs.Scan

/-!
# Replacing from left to right

Both passes over a template replace what begins at some positions of a text and
keep all other characters.  Here this is said of one position after the other,
without any jump to the next tag.

* `Scanned` is the scan: where something begins that has a replacement, that is
  put down and the scan goes on behind it, and else a character is kept and the
  scan goes on with the next one.
* `scanned_iff` says that a function which takes these steps is what the scan
  comes to.
* `placeholders_are_replaced` says it of the first pass, and that each
  placeholder of a field that is given is replaced, wherever it
  stands, and nothing else.
* `blocks_are_decided` says it of the second pass.
-/

namespace Notices.Text

variable {α : Type} [DecidableEq α] {pat s before after : List α}

/-- A text is not cut behind a place where the pattern stands. -/
theorem length_before_le {early late : List α}
    (hcut : cut pat s = some (before, after)) (hs : s = early ++ pat ++ late) :
    before.length ≤ early.length := by
  induction early generalizing s before with
  | nil =>
      rw [hs, List.nil_append, cut_self_append] at hcut
      obtain ⟨rfl, -⟩ := Prod.mk.inj (Option.some.inj hcut)
      exact Nat.le_refl _
  | cons c early ih =>
      by_cases hprefix : pat <+: s
      · obtain ⟨rest, rfl⟩ := hprefix
        rw [cut_self_append] at hcut
        obtain ⟨rfl, -⟩ := Prod.mk.inj (Option.some.inj hcut)
        exact Nat.zero_le _
      · subst hs
        simp only [List.cons_append] at hcut hprefix
        rw [cut_cons hprefix] at hcut
        obtain ⟨⟨front, rest⟩, hrest, heq⟩ := Option.map_eq_some_iff.mp hcut
        obtain ⟨rfl, rfl⟩ := Prod.mk.inj heq
        exact Nat.succ_le_succ (ih hrest rfl)

/-- A text is cut at the first place where the pattern stands. -/
theorem cut_eq_some_iff :
    cut pat s = some (before, after) ↔
      s = before ++ pat ++ after ∧
        ∀ early late, s = early ++ pat ++ late →
          before.length ≤ early.length := by
  constructor
  · intro hcut
    exact ⟨eq_append_of_cut hcut, fun early late => length_before_le hcut⟩
  · rintro ⟨hs, hfirst⟩
    cases hcut : cut pat s with
    | none => exact absurd ⟨before, after, hs.symm⟩ (cut_eq_none_iff.mp hcut)
    | some parts =>
        obtain ⟨front, rest⟩ := parts
        have hparts := eq_append_of_cut hcut
        have hlength : before.length = front.length :=
          Nat.le_antisymm (hfirst front rest hparts) (length_before_le hcut hs)
        rw [hs, List.append_assoc, List.append_assoc] at hparts
        obtain ⟨rfl, hrest⟩ := List.append_inj hparts hlength
        rw [List.append_cancel_left hrest]

end Notices.Text

namespace Notices.Markup

open Text

/-! ## The scan -/

/-- A scan of a text, one position after the other.  `Begins t text rest` says
that at the front of `t` something begins that is to be replaced by `text`, and
that `rest` stands behind it. -/
inductive Scanned (Begins : List Char → List Char → List Char → Prop) :
    List Char → List Char → Prop
  | nil : Scanned Begins [] []
  | replaced {t text rest out : List Char} (begins : Begins t text rest)
      (tail : Scanned Begins rest out) :
      Scanned Begins t (text ++ out)
  | kept {c : Char} {s out : List Char}
      (nothing : ∀ text rest, ¬ Begins (c :: s) text rest)
      (tail : Scanned Begins s out) : Scanned Begins (c :: s) (c :: out)

/-- A function that takes the steps of a scan is what the scan comes to, if what
is replaced is never empty. -/
theorem scanned_iff {Begins : List Char → List Char → List Char → Prop}
    {f : List Char → List Char} (hnil : f [] = [])
    (hreplaced : ∀ t text rest, Begins t text rest →
      rest.length < t.length ∧ f t = text ++ f rest)
    (hkept : ∀ c s, (∀ text rest, ¬ Begins (c :: s) text rest) →
      f (c :: s) = c :: f s)
    {t out : List Char} : Scanned Begins t out ↔ out = f t := by
  constructor
  · intro h
    induction h with
    | nil => exact hnil.symm
    | replaced begins _ ih => rw [(hreplaced _ _ _ begins).2, ih]
    | kept nothing _ ih => rw [hkept _ _ nothing, ih]
  · rintro rfl
    -- on the length, because a step may go on far behind where it began
    induction hlength : t.length using Nat.strongRecOn generalizing t with
    | ind n ih =>
        subst hlength
        by_cases hbegins : ∃ text rest, Begins t text rest
        · obtain ⟨text, rest, hbegins⟩ := hbegins
          obtain ⟨hshorter, hstep⟩ := hreplaced t text rest hbegins
          rw [hstep]
          exact .replaced hbegins (ih rest.length hshorter rfl)
        · cases t with
          | nil =>
              rw [hnil]
              exact .nil
          | cons c s =>
              have hnothing : ∀ text rest, ¬ Begins (c :: s) text rest :=
                fun text rest h => hbegins ⟨text, rest, h⟩
              rw [hkept c s hnothing]
              exact .kept hnothing (ih s.length (Nat.lt_succ_self _) rfl)

/-! ## Placeholders -/

section Placeholders

variable {fill : List Char → Option (List Char)}
    {name other text before after rest t : List Char}

/-- A placeholder that begins in front of another one ends in front of it. -/
theorem placeholder_ends_before (hother : isName other = true)
    (hbefore : before ≠ [])
    (h : before ++ placeholder name ++ after = placeholder other ++ rest) :
    ∃ between, before = placeholder other ++ between ∧
      rest = between ++ placeholder name ++ after := by
  obtain ⟨c, q, hbraces, -, hplain⟩ := placeholder_eq_braces hother
  rw [List.append_assoc] at h
  rcases List.append_eq_append_iff.mp h with ⟨between, hin, hrest⟩ |
    ⟨between, hbetween, hrest⟩
  · cases between with
    | nil => exact ⟨[], by simpa using hin.symm, by simpa using hrest.symm⟩
    | cons d between =>
        -- the other placeholder would go on into this one, which
        -- begins with two braces
        exfalso
        obtain ⟨rfl, hinside⟩ : '{' = d ∧
            '{' :: (name ++ closing ++ after) = between ++ rest := by
          simpa [placeholder, opening] using hrest
        obtain ⟨first, front, rfl⟩ := List.exists_cons_of_ne_nil hbefore
        rw [hbraces] at hin
        have hsecond : '{' :: c :: q = front ++ '{' :: between :=
          (List.cons.inj hin).2
        apply hplain
        cases front with
        | nil =>
            obtain rfl := (List.cons.inj hsecond).2
            exact List.mem_cons.mpr (Or.inl (List.cons.inj hinside).1)
        | cons second front =>
            rw [(List.cons.inj hsecond).2]
            simp
  · exact ⟨between, hbetween, by rw [hrest, List.append_assoc]⟩

/-- The first pass keeps the empty text. -/
theorem substitute_nil : substitute fill [] = [] :=
  substitute_of_cut_eq_none rfl

/-- The first pass keeps a character at which no placeholder begins that has a
text. -/
theorem substitute_cons_of_not_begins {c : Char} {s : List Char}
    (h : ∀ name text rest, isName name = true → fill name = some text →
      c :: s ≠ placeholder name ++ rest) :
    substitute fill (c :: s) = c :: substitute fill s := by
  apply substitute_cons
  intro name rest hname heq
  cases hfill : fill name with
  | none => rfl
  | some text => exact absurd heq (h name text rest hname hfill)

/-- The first pass replaces a placeholder wherever it stands, and what stands
before it and behind it is gone through as if it stood alone. -/
theorem substitute_around_placeholder (hname : isName name = true)
    (hfill : fill name = some text) (before after : List Char) :
    substitute fill (before ++ placeholder name ++ after) =
      substitute fill before ++ text ++ substitute fill after := by
  induction hlength : before.length
    using Nat.strongRecOn generalizing before with
  | ind n ih =>
      subst hlength
      cases before with
      | nil =>
          rw [List.nil_append, substitute_placeholder hname hfill,
            substitute_nil, List.nil_append]
      | cons c before =>
          by_cases hbegins : ∃ other rest found, isName other = true ∧
            fill other = some found ∧
              c :: before ++ placeholder name ++ after =
                placeholder other ++ rest
          · obtain ⟨other, rest, found, hother, hfound, hwhole⟩ := hbegins
            obtain ⟨between, hbefore, hrest⟩ :=
              placeholder_ends_before hother (List.cons_ne_nil c before) hwhole
            have hshorter : between.length < (c :: before).length := by
              rw [hbefore]
              simp [placeholder, opening]
              omega
            rw [hwhole, hrest, hbefore, substitute_placeholder hother hfound,
              substitute_placeholder hother hfound,
                ih between.length hshorter between rfl]
            simp only [List.append_assoc]
          · -- nothing begins in the whole text, and so nothing does in what
            -- stands before the placeholder
            have hwhole :
                substitute fill (c :: (before ++ placeholder name ++ after)) =
                c :: substitute fill (before ++ placeholder name ++ after) :=
              substitute_cons_of_not_begins
                fun other found rest hother hfound heq =>
                hbegins ⟨other, rest, found, hother, hfound, heq⟩
            have hfront : substitute fill (c :: before) =
                c :: substitute fill before := by
              apply substitute_cons_of_not_begins
              intro other found rest hother hfound heq
              refine hbegins ⟨other, rest ++ placeholder name ++ after, found,
                hother, hfound, ?_⟩
              rw [heq]
              simp only [List.append_assoc]
            rw [hfront, List.cons_append, List.cons_append, hwhole,
              ih before.length (Nat.lt_succ_self _) before rfl]
            rfl

/-- The first pass keeps a text in which no placeholder stands that has a
text. -/
theorem substitute_of_not_infix
    (h : ∀ name text, isName name = true → fill name = some text →
      ¬ placeholder name <:+: t) :
    substitute fill t = t := by
  induction t with
  | nil => exact substitute_nil
  | cons c t ih =>
      have hfront : substitute fill (c :: t) = c :: substitute fill t :=
        substitute_cons_of_not_begins fun name text rest hname hfill heq =>
          h name text hname hfill ⟨[], rest, by simpa using heq.symm⟩
      have hrest : substitute fill t = t :=
        ih fun name text hname hfill hpart =>
          h name text hname hfill (List.infix_cons hpart)
      rw [hfront, hrest]

end Placeholders

/-- At the front of a text the placeholder of a field begins that is there and
not null.  The escaped spelling of the field takes its place. -/
inductive BeginsGiven (escape : List Char → List Char) (data : Fields) :
    List Char → List Char → List Char → Prop
  | placeholder {name : List Char} {v : Value} (isName : isName name = true)
      (given : data.present? (String.ofList name) = some v) (rest : List Char) :
      BeginsGiven escape data (placeholder name ++ rest) (escape v.spell) rest

/-- **Placeholders.**  The first pass is a scan that replaces the placeholders
of the fields that are given.  Each of these placeholders is replaced,
wherever it stands: what is put in its place is not looked at again, and the
rest of the text is gone through as if it were not there.  A text without such
a placeholder is kept. -/
theorem placeholders_are_replaced (escape : List Char → List Char)
    (data : Fields) (t : List Char) :
    (∀ out, Scanned (BeginsGiven escape data) t out ↔
      out = fillIn escape data t) ∧
    (∀ before name after v, isName name = true →
      data.present? (String.ofList name) = some v →
      t = before ++ placeholder name ++ after →
      fillIn escape data t = fillIn escape data before ++ escape v.spell ++
        fillIn escape data after) ∧
    ((∀ name v, isName name = true →
      data.present? (String.ofList name) = some v →
      ¬ placeholder name <:+: t) → fillIn escape data t = t) := by
  have hfill : ∀ name v, data.present? (String.ofList name) = some v →
      insertion escape data name = some (escape v.spell) := by
    intro name v hv
    simp [insertion, hv]
  unfold fillIn
  refine ⟨fun out => ?_, ?_, ?_⟩
  · apply scanned_iff substitute_nil
    · rintro t text rest ⟨hname, hv, rest⟩
      refine ⟨?_, substitute_placeholder hname (hfill _ _ hv) rest⟩
      simp [placeholder, opening]
      omega
    · intro c s hnothing
      apply substitute_cons_of_not_begins
      intro name text rest hname hsome heq
      obtain ⟨v, hv, -⟩ := Option.map_eq_some_iff.mp hsome
      have hbegins : BeginsGiven escape data (placeholder name ++ rest)
          (escape v.spell) rest :=
        .placeholder hname hv rest
      rw [← heq] at hbegins
      exact hnothing _ rest hbegins
  · rintro before name after v hname hv rfl
    exact substitute_around_placeholder hname (hfill name v hv) before after
  · intro hnone
    apply substitute_of_not_infix
    intro name text hname hsome
    obtain ⟨v, hv, -⟩ := Option.map_eq_some_iff.mp hsome
    exact hnone name v hname hv

/-- A placeholder between two more braces is replaced, and the one that its
value looks like is not. -/
theorem braces_around_a_placeholder :
    let data : Fields := [("a", .string "\x7b\x7bb\x7d\x7d"), ("b", .int 1)]
    let t := "\x7b\x7b\x7ba\x7d\x7d\x7d".toList
    isName "a".toList = true ∧
      data.present? "a" = some (.string "\x7b\x7bb\x7d\x7d") ∧
      t = ['{'] ++ placeholder "a".toList ++ ['}'] ∧
      fillIn id data t = "\x7b\x7b\x7bb\x7d\x7d\x7d".toList := by
  intro data t
  have hkept : ∀ c : Char, fillIn id data [c] = [c] := by
    intro c
    apply (placeholders_are_replaced id data [c]).2.2
    intro name v _ _ hpart
    have hlength := hpart.length_le
    simp [placeholder, opening] at hlength
  refine ⟨rfl, rfl, rfl, ?_⟩
  rw [(placeholders_are_replaced id data t).2.1 ['{'] "a".toList ['}'] _ rfl rfl
    rfl, hkept, hkept]
  rfl

/-! ## Blocks -/

/-- At the front of a text a block begins: a tag with a name, and the first
closer behind it.  Its body takes its place if its field counts as given,
and else nothing does. -/
inductive BeginsBlock (data : Fields) : List Char → List Char → List Char → Prop
  | block {blanks name body after : List Char}
      (isBlanks : isBlanks blanks = true)
      (isName : isName name = true)
      (first : ∀ early late,
        body ++ blockClosing ++ after = early ++ blockClosing ++ late →
        body.length ≤ early.length) :
      BeginsBlock data (blockTag blanks name ++ (body ++ blockClosing ++ after))
        (if (data.get? (String.ofList name)).any Value.isTruthy then body
          else []) after

/-- **Blocks.**  The second pass is a scan that replaces each block by its body
or by nothing and goes on behind it. -/
theorem blocks_are_decided (data : Fields) (t out : List Char) :
    Scanned (BeginsBlock data) t out ↔ out = decideBlocks data t := by
  unfold decideBlocks
  apply scanned_iff (conditionals_of_cut_eq_none rfl)
  · rintro t text rest ⟨hblanks, hname, hfirst⟩
    refine ⟨?_,
      conditionals_block hblanks hname (cut_eq_some_iff.mpr ⟨rfl, hfirst⟩)⟩
    simp [blockTag, blockOpening]
    omega
  · intro c s hnothing
    apply conditionals_cons
    intro blanks name block hblanks hname heq
    rw [Option.eq_none_iff_forall_ne_some]
    rintro ⟨body, after⟩ hcut
    obtain ⟨rfl, hfirst⟩ := cut_eq_some_iff.mp hcut
    have hbegins : BeginsBlock data
        (blockTag blanks name ++ (body ++ blockClosing ++ after)) _ after :=
      .block hblanks hname hfirst
    rw [← heq] at hbegins
    exact hnothing _ after hbegins

end Notices.Markup
