import Notices.Markup.Substitute
import Notices.Markup.Render
import Notices.Proofs.Scan

/-!
# What the data can do to a message

A message is a template with values of the data in it.  Here it is said
how far the data reaches.

* `Mentions` lists the fields whose values a template can show or ask for.
  The tags that ask are looked for behind the first pass, since a value
  can bring a tag with it.
* `substitute_congr` and `conditionals_congr` say that each pass reads only the
  names that it comes across.
* `only_mentioned_fields_matter` says that data which agree on these
  fields make the same message.
* `filter_substitute_sublist` says that the first pass puts no character of a
  kind in if no value has one.
* `escaped_values_bring_no_markup` says that with escaped values all
  characters of markup in a message are those of the template, in their order,
  whatever the values are.
-/

namespace Notices.Markup

open Text

/-! ## The fields that matter -/

section Mentioned

variable {fill other : List Char → Option (List Char)}
    {holds holds' : List Char → Bool} {t : List Char}

/-- Passes that have the same text for a name put the same text in the
place of its placeholder. -/
theorem filled_congr {name : List Char}
    (h : isName name = true → fill name = other name) :
    filled fill name = filled other name := by
  unfold filled
  by_cases hname : isName name = true
  · rw [if_pos hname, if_pos hname, h hname]
  · rw [if_neg hname, if_neg hname]

/-- A text that is cut at opening and then at closing braces has a placeholder
there, if a name stands between. -/
theorem eq_append_placeholder {before inside name after : List Char}
    (hcut : cut opening t = some (before, inside))
    (hclose : cut closing inside = some (name, after)) :
    t = before ++ placeholder name ++ after := by
  rw [eq_append_of_cut hcut, eq_append_of_cut hclose]
  simp [placeholder]

/-- The first pass asks for no text but those of the placeholders that
stand in its template. -/
theorem substitute_congr
    (h : ∀ name, isName name = true → placeholder name <:+: t →
      fill name = other name) :
    substitute fill t = substitute other t := by
  fun_induction substitute fill t with
  | case1 t hcut =>
      rw [substitute_eq other]
      simp only [hcut]
  | case2 t before inside hcut hclose =>
      rw [substitute_eq other]
      simp only [hcut, hclose]
  | case3 t before inside hcut name after hclose text hfilled ih =>
      have ht := eq_append_placeholder hcut hclose
      have hfound : filled fill name = filled other name :=
        filled_congr fun hname => h name hname ⟨before, after, ht.symm⟩
      have hrest : after <:+: t :=
        ⟨before ++ placeholder name, [], by rw [ht, List.append_nil]⟩
      have hafter := ih fun name hname hpart => h name hname (hpart.trans hrest)
      rw [substitute_eq other]
      simp only [hcut, hclose, ← hfound, hfilled, hafter]
  | case4 t before inside hcut name after hclose hfilled ih =>
      have ht := eq_append_placeholder hcut hclose
      have hfound : filled fill name = filled other name :=
        filled_congr fun hname => h name hname ⟨before, after, ht.symm⟩
      have hrest : '{' :: inside <:+: t :=
        ⟨before ++ ['{'], [], by rw [eq_append_of_cut hcut]; simp [opening]⟩
      have hinside :=
        ih fun name hname hpart => h name hname (hpart.trans hrest)
      rw [substitute_eq other]
      simp only [hcut, hclose, ← hfound, hfilled, hinside]

/-- The second pass asks for no condition but those of the tags that stand in
its text. -/
theorem conditionals_congr
    (h : ∀ blanks name, isBlanks blanks = true → isName name = true →
      blockTag blanks name <:+: t → holds name = holds' name) :
    conditionals holds t = conditionals holds' t := by
  fun_induction conditionals holds t with
  | case1 t hcut =>
      rw [conditionals_eq holds']
      simp only [hcut]
  | case2 t before inside hcut hread ih =>
      have hrest : blockOpening.drop 1 ++ inside <:+: t :=
        ⟨before ++ ['{'], [], by
          rw [eq_append_of_cut hcut]; simp [blockOpening]⟩
      have hinside := ih fun blanks name hblanks hname hpart =>
        h blanks name hblanks hname (hpart.trans hrest)
      rw [conditionals_eq holds']
      simp only [hcut, hread, hinside]
  | case3 t before inside hcut name block hread hclose =>
      rw [conditionals_eq holds']
      simp only [hcut, hread, hclose]
  | case4 t before inside hcut name block hread body after hclose ih =>
      obtain ⟨blanks, hblanks, hname, hinside⟩ :=
        eq_append_of_readCondition? hread
      have ht : t = before ++ blockTag blanks name ++
          (body ++ blockClosing ++ after) := by
        rw [eq_append_of_cut hcut, hinside, eq_append_of_cut hclose]
        simp [blockTag]
      have hsame : holds name = holds' name :=
        h blanks name hblanks hname
          ⟨before, body ++ blockClosing ++ after, ht.symm⟩
      have hrest : after <:+: t :=
        ⟨before ++ blockTag blanks name ++ (body ++ blockClosing), [], by
          rw [ht]; simp⟩
      have hafter := ih fun blanks name hblanks hname hpart =>
        h blanks name hblanks hname (hpart.trans hrest)
      rw [conditionals_eq holds']
      simp only [hcut, hread, hclose, hsame, hafter]

/-- Whether a template refers to a field: its placeholder stands in the
template, or a tag with its name stands in what the first pass leaves. -/
def Mentions (escape : List Char → List Char) (data : Fields)
    (t name : List Char) : Prop :=
  isName name = true ∧
    (placeholder name <:+: t ∨
      ∃ blanks, isBlanks blanks = true ∧
        blockTag blanks name <:+: fillIn escape data t)

/-- A field that is not there counts as given no more than one that is null. -/
theorem holdsIn_eq (data : Fields) (name : List Char) :
    holdsIn data name =
      (data.present? (String.ofList name)).any Value.isTruthy := by
  unfold holdsIn Fields.present?
  cases hget : data.get? (String.ofList name) with
  | none => rfl
  | some v => cases v <;> rfl

/-- Data that agree on the fields to which a template refers make
the same message of it. -/
theorem render_congr {escape : List Char → List Char} {data data' : Fields}
    {t : List Char}
    (hsame : ∀ name, Mentions escape data t name →
      data.present? (String.ofList name) =
        data'.present? (String.ofList name)) :
    render escape data t = render escape data' t := by
  have hfill : fillIn escape data t = fillIn escape data' t := by
    unfold fillIn
    apply substitute_congr
    intro name hname hpart
    unfold insertion
    rw [hsame name ⟨hname, Or.inl hpart⟩]
  unfold render decideBlocks
  rw [← hfill]
  apply conditionals_congr
  intro blanks name hblanks hname hpart
  rw [holdsIn_eq, holdsIn_eq,
    hsame name ⟨hname, Or.inr ⟨blanks, hblanks, hpart⟩⟩]

/-- **The fields that matter.**  Data that agree on the fields to which
a template refers, where a null counts as a field that is not there,
make the same message of it.  So no other field changes the message,
whatever value it is given. -/
theorem only_mentioned_fields_matter (escape : List Char → List Char)
    (data : Fields) (t : List Char) :
    (∀ data' : Fields, (∀ name, Mentions escape data t name →
        data.present? (String.ofList name) =
          data'.present? (String.ofList name)) →
      render escape data t = render escape data' t) ∧
    (∀ field v, ¬ Mentions escape data t field.toList →
      render escape (data.set field v) t = render escape data t) := by
  refine ⟨fun data' hsame => render_congr hsame, ?_⟩
  intro field v hnot
  symm
  apply render_congr
  intro name hmentioned
  have hother : String.ofList name ≠ field := by
    rintro rfl
    exact hnot (by simpa using hmentioned)
  unfold Fields.present?
  rw [Fields.get?_set_other data v hother]

/-- A value brings a block that asks for a remark, so that the template refers
to the remark, and not to the customer's number. -/
theorem number_of_the_customer_does_not_matter :
    let block : Value :=
      .string "\x7b\x7b#if remark\x7d\x7dNote\x7b\x7b/if\x7d\x7d"
    let data : Fields := [("block", block), ("remark", .null)]
    let data' : Fields :=
      [("customer_phone", .int 5551234567), ("block", block)]
    let t := placeholder "block".toList ++ ['!']
    Mentions id data t "remark".toList ∧
      (∀ name, Mentions id data t name →
        data.present? (String.ofList name) =
          data'.present? (String.ofList name)) ∧
      render id data t = render id data' t ∧
      ¬ Mentions id data t "customer_phone".toList ∧
      render id (data.set "customer_phone" (.bool true)) t =
        render id data t := by
  intro block data data' t
  have hfilled : fillIn id data t =
      "\x7b\x7b#if remark\x7d\x7dNote\x7b\x7b/if\x7d\x7d!".toList := by
    have hvalue : insertion id data "block".toList =
        some "\x7b\x7b#if remark\x7d\x7dNote\x7b\x7b/if\x7d\x7d".toList := rfl
    have hrest : substitute (insertion id data) ['!'] = ['!'] :=
      substitute_of_cut_eq_none rfl
    have hpass := substitute_placeholder rfl hvalue ['!']
    rw [hrest] at hpass
    exact hpass
  have hremark : Mentions id data t "remark".toList :=
    ⟨rfl, Or.inr ⟨[' '], rfl, [], "Note\x7b\x7b/if\x7d\x7d!".toList, by
      rw [hfilled]; rfl⟩⟩
  have hnumber : ¬ Mentions id data t "customer_phone".toList := by
    rintro ⟨-, hslot | ⟨blanks, -, htag⟩⟩
    · exact cut_eq_none_iff.mp (by rfl) hslot
    · have hname : "customer_phone".toList <:+:
          blockTag blanks "customer_phone".toList :=
        ⟨blockOpening ++ blanks, closing, rfl⟩
      rw [hfilled] at htag
      exact cut_eq_none_iff.mp (by rfl) (hname.trans htag)
  have hsame : ∀ name, Mentions id data t name →
      data.present? (String.ofList name) =
        data'.present? (String.ofList name) := by
    intro name hmentioned
    by_cases hphone : String.ofList name = "customer_phone"
    · exact absurd (by simpa [← hphone] using hmentioned) hnumber
    · by_cases hblock : String.ofList name = "block"
      · rw [hblock]
        rfl
      · by_cases hnote : String.ofList name = "remark"
        · rw [hnote]
          rfl
        · simp [data, data', Fields.present?, Fields.get?, Ne.symm hphone,
            Ne.symm hblock, Ne.symm hnote]
  have hmatter := only_mentioned_fields_matter id data t
  exact ⟨hremark, hsame, hmatter.1 data' hsame, hnumber,
    hmatter.2 "customer_phone" (.bool true) hnumber⟩

end Mentioned

/-! ## Characters of markup -/

/-- The characters that begin and end tags and quotes in a markup document. -/
def isMarkupChar (c : Char) : Bool :=
  c == '<' || c == '>' || c == '"' || c == '\''

/-- A reference holds no character of markup, and only what is no character of
markup stays as it is. -/
theorem any_isMarkupChar_escapeChar (d : Char) :
    (escapeChar d).any isMarkupChar = false := by
  fun_cases escapeChar d with
  | case1 => rfl
  | case2 => rfl
  | case3 => rfl
  | case4 => rfl
  | case5 => rfl
  | case6 hamp hless hgreater hquote hapostrophe =>
      simp [isMarkupChar, hless, hgreater, hquote, hapostrophe]

/-- An escaped text holds no character of markup. -/
theorem isMarkupChar_of_mem_escape {c : Char} {s : List Char}
    (hc : c ∈ escape s) :
    isMarkupChar c = false := by
  obtain ⟨d, -, hd⟩ := List.mem_flatMap.mp hc
  have hnone := List.any_eq_false.mp (any_isMarkupChar_escapeChar d) c hd
  simpa using hnone

/-- If what is put in the place of placeholders has no character of a kind, then
the first pass adds none. -/
theorem filter_substitute_sublist {fill : List Char → Option (List Char)}
    {kind : Char → Bool}
    (hfill : ∀ name text, fill name = some text → ∀ c ∈ text, kind c = false)
    (t : List Char) :
    ((substitute fill t).filter kind).Sublist (t.filter kind) := by
  fun_induction substitute fill t with
  | case1 t hcut => exact List.Sublist.refl _
  | case2 t before inside hcut hclose => exact List.Sublist.refl _
  | case3 t before inside hcut name after hclose text hfilled ih =>
      have htext : text.filter kind = [] := by
        have hfound : fill name = some text := by
          unfold filled at hfilled
          split at hfilled
          · exact hfilled
          · cases hfilled
        apply List.filter_eq_nil_iff.mpr
        intro c hc
        rw [hfill name text hfound c hc]
        exact Bool.false_ne_true
      have hafter :
          (after.filter kind).Sublist ((opening ++ inside).filter kind) := by
        apply List.Sublist.filter
        rw [eq_append_of_cut hclose, ← List.append_assoc]
        exact List.sublist_append_right _ after
      rw [eq_append_of_cut hcut, List.append_assoc, List.append_assoc,
        List.filter_append, List.filter_append, List.filter_append, htext,
        List.nil_append]
      exact (ih.trans hafter).append_left _
  | case4 t before inside hcut name after hclose hfilled ih =>
      have ht : t = before ++ (['{'] ++ ('{' :: inside)) := by
        rw [eq_append_of_cut hcut]
        simp [opening]
      have hout : before ++ '{' :: substitute fill ('{' :: inside) =
          before ++ (['{'] ++ substitute fill ('{' :: inside)) := rfl
      rw [ht, hout, List.filter_append, List.filter_append, List.filter_append,
        List.filter_append]
      exact (ih.append_left _).append_left _

/-- **Escaped values.**  If values are escaped then the characters of markup in
a message are some of those in its template, in the same order, whatever the
values are.  So a template without them gives a message without them. -/
theorem escaped_values_bring_no_markup (data : Fields) (t : List Char) :
    ((render escape data t).filter isMarkupChar).Sublist
      (t.filter isMarkupChar) ∧
    ((∀ c ∈ t, isMarkupChar c = false) →
      ∀ c ∈ render escape data t, isMarkupChar c = false) := by
  have hfill : ∀ name text, insertion escape data name = some text →
      ∀ c ∈ text, isMarkupChar c = false := by
    intro name text htext c hc
    obtain ⟨v, -, rfl⟩ := Option.map_eq_some_iff.mp htext
    exact isMarkupChar_of_mem_escape hc
  have hfirst : ((fillIn escape data t).filter isMarkupChar).Sublist
      (t.filter isMarkupChar) :=
    filter_substitute_sublist hfill t
  have hsecond : (render escape data t).Sublist (fillIn escape data t) :=
    conditionals_sublist _ _
  have hall := (hsecond.filter isMarkupChar).trans hfirst
  refine ⟨hall, fun hclean c hc => ?_⟩
  cases hkind : isMarkupChar c with
  | false => rfl
  | true =>
      have hmem : c ∈ (render escape data t).filter isMarkupChar :=
        List.mem_filter.mpr ⟨hc, hkind⟩
      have hin : c ∈ t := (List.mem_filter.mp (hall.subset hmem)).1
      rw [← hkind, hclean c hin]

/-- A hostile value brings a block with a quote and a tag, and a template
without markup stays without it. -/
theorem markup_in_a_name_is_escaped :
    let data : Fields :=
      [("name", .string "\x7b\x7b#if name\x7d\x7d\"<b>\x7b\x7b/if\x7d\x7d")]
    let t := "Hi ".toList ++ (placeholder "name".toList ++ ['!'])
    (∀ c ∈ t, isMarkupChar c = false) ∧
      (∀ c ∈ render escape data t, isMarkupChar c = false) ∧
      render escape data t = "Hi &quot;&lt;b&gt;!".toList := by
  intro data t
  have hnone : t.any isMarkupChar = false := rfl
  have hclean : ∀ c ∈ t, isMarkupChar c = false := by simpa using hnone
  have hfilled : fillIn escape data t =
      ("Hi \x7b\x7b#if name\x7d\x7d&quot;" ++
        "&lt;b&gt;\x7b\x7b/if\x7d\x7d!").toList := by
    have hvalue : insertion escape data "name".toList =
        some ("\x7b\x7b#if name\x7d\x7d&quot;" ++
          "&lt;b&gt;\x7b\x7b/if\x7d\x7d").toList := rfl
    have hrest : substitute (insertion escape data) ['!'] = ['!'] :=
      substitute_of_cut_eq_none rfl
    have hpass := substitute_placeholder rfl hvalue ['!']
    rw [hrest] at hpass
    rw [fillIn, substitute_plain (by decide), hpass]
    rfl
  have hrendered : render escape data t = "Hi &quot;&lt;b&gt;!".toList := by
    rw [render, hfilled, decideBlocks, conditionals_eq]
    show "Hi ".toList ++ "&quot;&lt;b&gt;".toList ++
        conditionals (holdsIn data) ['!'] = _
    rw [conditionals_of_cut_eq_none rfl]
    rfl
  exact ⟨hclean, (escaped_values_bring_no_markup data t).2 hclean, hrendered⟩

end Notices.Markup
