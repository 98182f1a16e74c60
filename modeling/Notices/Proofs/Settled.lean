import Notices.Proofs.Filling

/-!
# Rendering twice

A message that is rendered again is a template of which nothing is left to be
done.

* `IsSettled` says of a text that no placeholder of a field that is given stands
  in it, and no block that is closed.
* `isSettled_iff` says that these are the texts that both passes keep, whatever
  the first one has to put in.
* `IsSettled.render` says that such a text is rendered as itself.
* `isSettled_eval` says that what the text of a tree is rendered as is such a
  text: neither a value nor two parts that have come to stand beside each
  other make up a new tag.
* `rendering_twice_changes_nothing` says both of rendering.
-/

namespace Notices.Markup

open Text

/-! ## Blocks that are closed -/

section Blocks

variable {holds : List Char → Bool} {t : List Char}

/-- Whether a block stands in a text: a tag that opens one, and a
closer anywhere behind it. -/
def HoldsBlock (t : List Char) : Prop :=
  ∃ blanks name body, isBlanks blanks = true ∧ isName name = true ∧
    blockTag blanks name ++ body ++ blockClosing <:+: t

/-- The second pass keeps a text in which no block stands. -/
theorem conditionals_of_not_holdsBlock (hnone : ¬ HoldsBlock t) :
    conditionals holds t = t := by
  induction t with
  | nil => exact conditionals_of_cut_eq_none rfl
  | cons c t ih =>
      have hfront : conditionals holds (c :: t) =
          c :: conditionals holds t := by
        apply conditionals_cons
        intro blanks name block hblanks hname heq
        apply cut_eq_none_iff.mpr
        rintro ⟨body, after, hblock⟩
        refine hnone ⟨blanks, name, body, hblanks, hname, [], after, ?_⟩
        rw [heq, ← hblock]
        simp only [List.nil_append, List.append_assoc]
      have hrest : ¬ HoldsBlock t := by
        rintro ⟨blanks, name, body, hblanks, hname, hpart⟩
        exact hnone ⟨blanks, name, body, hblanks, hname, List.infix_cons hpart⟩
      rw [hfront, ih hrest]

/-- The second pass makes a text shorter in which a block stands,
since it drops the tags. -/
theorem length_conditionals_lt (hblock : HoldsBlock t) :
    (conditionals holds t).length < t.length := by
  induction t with
  | nil =>
      obtain ⟨blanks, name, body, -, -, hpart⟩ := hblock
      have hlength := hpart.length_le
      simp [blockClosing] at hlength
  | cons c t ih =>
      by_cases hfront : ∃ blanks name block body after, isBlanks blanks = true ∧
        isName name = true ∧
          c :: t = blockTag blanks name ++ block ∧
            cut blockClosing block = some (body, after)
      · obtain ⟨blanks, name, block, body, after, hblanks, hname, heq,
          hclose⟩ := hfront
        have hbody : (if holds name then body else []).length ≤
            body.length := by
          split
          · exact Nat.le_refl _
          · exact Nat.zero_le _
        have hafter := (conditionals_sublist holds after).length_le
        have hlength := length_of_cut hclose
        have htag : 0 < (blockTag blanks name).length := by
          simp [blockTag, blockOpening]
        rw [heq, conditionals_block hblanks hname hclose, List.length_append,
          List.length_append]
        omega
      · have hkept : conditionals holds (c :: t) =
            c :: conditionals holds t := by
          apply conditionals_cons
          intro blanks name block hblanks hname heq
          cases hclose : cut blockClosing block with
          | none => rfl
          | some parts =>
              exact absurd ⟨blanks, name, block, parts.1, parts.2, hblanks,
                hname, heq, hclose⟩ hfront
        have hrest : HoldsBlock t := by
          obtain ⟨blanks, name, body, hblanks, hname, hpart⟩ := hblock
          refine ⟨blanks, name, body, hblanks, hname, ?_⟩
          -- a block at the front would be closed, and so it stands further on
          refine (List.infix_cons_iff.mp hpart).resolve_left ?_
          rintro ⟨rest, hwhole⟩
          have hclosed : cut blockClosing (body ++ blockClosing ++ rest) ≠
              none := fun hnone =>
            cut_eq_none_iff.mp hnone ⟨body, rest, rfl⟩
          obtain ⟨⟨front, after⟩, hclose⟩ :=
            Option.ne_none_iff_exists'.mp hclosed
          refine hfront
            ⟨blanks, name, _, front, after, hblanks, hname, ?_, hclose⟩
          rw [← hwhole]
          simp only [List.append_assoc]
        rw [hkept]
        exact Nat.succ_lt_succ (ih hrest)

/-- The second pass keeps a text exactly if no block stands in it. -/
theorem conditionals_eq_self_iff :
    conditionals holds t = t ↔ ¬ HoldsBlock t := by
  constructor
  · intro hkept hblock
    have hshorter : (conditionals holds t).length < t.length :=
      length_conditionals_lt hblock
    rw [hkept] at hshorter
    exact Nat.lt_irrefl _ hshorter
  · exact conditionals_of_not_holdsBlock

end Blocks

/-! ## Settled texts -/

section Settled

variable {data : Fields} {t : List Char}

/-- A text of which nothing is left to be done for some data. -/
structure IsSettled (data : Fields) (t : List Char) : Prop where
  noPlaceholder : ∀ name v, isName name = true →
    data.present? (String.ofList name) = some v →
    ¬ placeholder name <:+: t
  noBlock : ¬ HoldsBlock t

/-- The first pass keeps a text in which no placeholder stands of a field that
is given. -/
theorem fillIn_of_no_placeholder (escape : List Char → List Char)
    (hnone : ∀ name v, isName name = true →
      data.present? (String.ofList name) = some v → ¬ placeholder name <:+: t) :
    fillIn escape data t = t := by
  apply substitute_of_not_infix
  intro name text hname htext
  obtain ⟨v, hv, -⟩ := Option.map_eq_some_iff.mp htext
  exact hnone name v hname hv

/-- In a text that the first pass keeps whatever it has to put in, no
placeholder stands of a field that is given. -/
theorem no_placeholder_of_fillIn (hkept : ∀ escape, fillIn escape data t = t)
    {name : List Char} {v : Value} (hname : isName name = true)
    (hv : data.present? (String.ofList name) = some v) :
    ¬ placeholder name <:+: t := by
  rintro ⟨before, after, ht⟩
  -- a text that is longer than the whole would be put in the place of the
  -- placeholder
  let long := List.replicate (t.length + 1) ' '
  have hfill : insertion (fun _ => long) data name = some long := by
    simp [insertion, hv]
  have hpass := hkept fun _ => long
  rw [← ht, fillIn, substitute_around_placeholder hname hfill] at hpass
  have hlength := congrArg List.length hpass
  rw [ht] at hlength
  simp only [List.length_append, long, List.length_replicate] at hlength
  omega

/-- The settled texts are those that both passes keep, whatever the
first one has to put in. -/
theorem isSettled_iff :
    IsSettled data t ↔
      (∀ escape, fillIn escape data t = t) ∧ decideBlocks data t = t := by
  constructor
  · rintro ⟨hslots, hblocks⟩
    exact ⟨fun escape => fillIn_of_no_placeholder escape hslots,
      conditionals_of_not_holdsBlock hblocks⟩
  · rintro ⟨hfirst, hsecond⟩
    exact ⟨fun name v hname hv => no_placeholder_of_fillIn hfirst hname hv,
      conditionals_eq_self_iff.mp hsecond⟩

/-- A settled text is rendered as itself. -/
theorem IsSettled.render (h : IsSettled data t)
    (escape : List Char → List Char) :
    render escape data t = t := by
  obtain ⟨hfirst, hsecond⟩ := isSettled_iff.mp h
  rw [Markup.render, hfirst, hsecond]

end Settled

/-! ## What trees are rendered as -/

section Trees

variable {escape : List Char → List Char} {data : Fields}

/-- A piece is evaluated by putting in the texts of all fields. -/
theorem Piece.eval_eq_filled (p : Piece) :
    p.eval escape data = p.filled (insertion escape data) := by
  cases p with
  | text plain => rfl
  | slot name =>
      cases hthere : data.present? (String.ofList name.chars) <;>
        simp [Piece.eval, Piece.filled, insertion, hthere]

/-- The first pass keeps what a piece stands for, even if it would put in other
texts. -/
theorem fillIn_eval_piece (escape' : List Char → List Char) {p : Piece}
    (hputs : PutsNoBrace escape data p.slots) (t : List Char) :
    fillIn escape' data (p.eval escape data ++ t) = p.eval escape data ++
      fillIn escape' data t := by
  have hplain : FillsPlain (insertion escape data) p.slots := by
    intro name hname text htext
    obtain ⟨v, hv, rfl⟩ := Option.map_eq_some_iff.mp htext
    exact hputs name hname v hv
  have hfirst :
      (fun name =>
        (insertion escape data name).or (insertion escape' data name)) =
      insertion escape data := by
    funext name
    cases hthere : data.present? (String.ofList name) <;>
      simp [insertion, hthere]
  rw [Piece.eval_eq_filled, fillIn, substitute_filled_piece hplain, hfirst]
  rfl

/-- A pass that keeps what a piece stands for keeps what a tree stands for. -/
theorem keeps_eval {f : List Char → List Char} (hnil : f [] = [])
    (hpiece : ∀ p : Piece, PutsNoBrace escape data p.slots →
      ∀ t, f (p.eval escape data ++ t) = p.eval escape data ++ f t)
    {tree : List Node}
    (hputs : PutsNoBrace escape data (tree.flatMap Node.slots)) :
    f (tree.flatMap (Node.eval escape data)) =
      tree.flatMap (Node.eval escape data) := by
  have hnode : ∀ node ∈ tree, ∀ t,
      f (node.eval escape data ++ t) = node.eval escape data ++ f t := by
    intro node hmem t
    have hslots : PutsNoBrace escape data node.slots := fun name hname =>
      hputs name (List.mem_flatMap.mpr ⟨node, hmem, hname⟩)
    cases node with
    | piece p => exact hpiece p hslots t
    | block gap name body =>
        by_cases hgiven :
          (data.get? (String.ofList name.chars)).any Value.isTruthy = true
        · simp only [Node.eval, if_pos hgiven]
          apply scan_flatMap
          intro p hp
          exact hpiece p fun slot hslot =>
            hslots slot (List.mem_flatMap.mpr ⟨p, hp, hslot⟩)
        · simp only [Node.eval, if_neg hgiven, List.nil_append]
  exact scan_flatMap_end hnil hnode

/-- What a tree stands for is settled. -/
theorem isSettled_eval {tree : List Node}
    (hputs : PutsNoBrace escape data (tree.flatMap Node.slots)) :
    IsSettled data (tree.flatMap (Node.eval escape data)) := by
  apply isSettled_iff.mpr
  constructor
  · intro escape'
    exact keeps_eval substitute_nil
      (fun p hp t => fillIn_eval_piece escape' hp t) hputs
  · exact keeps_eval (conditionals_of_cut_eq_none rfl)
      (fun p hp t => decideBlocks_piece hp t) hputs

end Trees

/-- **Rendering twice.**  A text in which no placeholder stands of a field that
is given, and no block that is closed, is rendered as itself.  The text of a
tree is rendered as such a text if no opening brace is put in the place of its
placeholders, so that it is not changed when it is rendered again. -/
theorem rendering_twice_changes_nothing (escape : List Char → List Char)
    (data : Fields) :
    (∀ t, IsSettled data t → render escape data t = t) ∧
    (∀ tree : List Node, PutsNoBrace escape data (tree.flatMap Node.slots) →
      IsSettled data (render escape data (tree.flatMap Node.print)) ∧
      render escape data (render escape data (tree.flatMap Node.print)) =
        render escape data (tree.flatMap Node.print)) := by
  refine ⟨fun t hsettled => hsettled.render escape, ?_⟩
  intro tree hputs
  have hmeaning : render escape data (tree.flatMap Node.print) =
      tree.flatMap (Node.eval escape data) := by
    unfold render
    rw [fillIn_print, decideBlocks_filled hputs]
  have hsettled := isSettled_eval hputs
  rw [hmeaning]
  exact ⟨hsettled, hsettled.render escape⟩

/-- A reminder keeps the placeholder of a date that is not known, beside a value
that ends in a brace. -/
theorem reminder_rendered_twice :
    let amount : Name := ⟨"amount".toList, by decide⟩
    let due : Name := ⟨"due".toList, by decide⟩
    let gap : Gap := ⟨[' '], by decide⟩
    let brace : Plain := ⟨['\x7d'], by decide⟩
    let data : Fields := [("amount", .string "5\x7d"), ("due", .null)]
    let tree : List Node :=
      [.block gap amount [.slot amount, .text brace], .piece (.slot due),
      .block gap due [.text brace]]
    let once := "5\x7d\x7d\x7b\x7bdue\x7d\x7d".toList
    PutsNoBrace id data (tree.flatMap Node.slots) ∧
      render id data (tree.flatMap Node.print) = once ∧
      IsSettled data once ∧ render id data once = once := by
  intro amount due gap brace data tree once
  have hputs : PutsNoBrace id data (tree.flatMap Node.slots) := by
    intro slot hslot v hv
    obtain rfl | rfl : slot = amount ∨ slot = due := by
      simpa [tree, Node.slots, Piece.slots] using hslot
    · obtain rfl : v = .string "5\x7d" := Option.some.inj hv.symm
      decide
    · cases hv
  have honce : render id data (tree.flatMap Node.print) = once := by
    rw [render, fillIn_print, decideBlocks_filled hputs]
    rfl
  have hsettled : IsSettled data once := by
    rw [← honce]
    exact ((rendering_twice_changes_nothing id data).2 tree hputs).1
  exact ⟨hputs, honce, hsettled,
    (rendering_twice_changes_nothing id data).1 once hsettled⟩

end Notices.Markup
