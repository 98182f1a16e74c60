import Notices.Proofs.Scan

/-!
# Where a tag ends

The condition of a block is read behind `{{#if`, wherever that stands in a text.
What is read is a tag, and every tag is read: the blanks and the name are taken
as far as they go, and neither of them runs into what follows.

* `IsTag` says which texts are the tag of a name.
* `conditionAt?_eq_some_iff` says that the text goes on with what is left to be
  read behind the condition.
* `readCondition?_eq_some_iff` says that a condition is read exactly if a tag
  stands there.
* `tags_are_read_by_their_grammar` puts these together.
-/

namespace Notices.Markup

open Text

/-- Whether a text is the tag that opens a block of a name. -/
def IsTag (s name : List Char) : Prop :=
  ∃ blanks, isBlanks blanks = true ∧ isName name = true ∧
    s = blockTag blanks name

variable {t s name : List Char} {start finish : Nat}

/-- A part of a text, which is not empty, is what the text begins with at
the start of the part. -/
theorem extract_eq_iff (hs : s ≠ []) (hfinish : finish ≤ t.length) :
    t.extract start finish = s ↔ t.drop start = s ++ t.drop finish := by
  rw [List.extract_eq_take_drop]
  constructor
  · intro hpart
    have hlt : start < finish := by
      apply Nat.lt_of_not_le
      intro hle
      rw [Nat.sub_eq_zero_of_le hle, List.take_zero] at hpart
      exact hs hpart.symm
    have hbehind : t.drop finish = (t.drop start).drop (finish - start) := by
      rw [List.drop_drop, Nat.add_sub_cancel' (Nat.le_of_lt hlt)]
    rw [hbehind, ← hpart, List.take_append_drop]
  · intro hbegins
    have hlength := congrArg List.length hbegins
    have hsome := List.length_pos_iff.mpr hs
    simp only [List.length_append, List.length_drop] at hlength
    have hs' : finish - start = s.length := by omega
    rw [hbegins, hs', List.take_left]

/-- What is read at a place is what is read behind `{{#if`, and the text goes on
at the place behind the tag. -/
theorem conditionAt?_eq_some_iff :
    conditionAt? t start = some (name, finish) ↔
      finish ≤ t.length ∧
      readCondition? (t.drop (start + blockOpening.length)) =
        some (name, t.drop finish) := by
  constructor
  · intro hread
    obtain ⟨⟨n, block⟩, hcondition, heq⟩ := Option.map_eq_some_iff.mp hread
    obtain ⟨rfl, rfl⟩ := Prod.mk.inj heq
    -- what is left behind the condition is the end of the text
    obtain ⟨blanks, -, -, hrest⟩ := eq_append_of_readCondition? hcondition
    have hpart : block <:+ t.drop (start + blockOpening.length) :=
      ⟨blanks ++ n ++ closing, hrest.symm⟩
    have hblock : block = t.drop (t.length - block.length) :=
      List.suffix_iff_eq_drop.mp (hpart.trans (List.drop_suffix _ t))
    refine ⟨Nat.sub_le _ _, ?_⟩
    rw [← hblock]
    exact hcondition
  · rintro ⟨hfinish, hcondition⟩
    have hplace : t.length - (t.drop finish).length = finish := by
      rw [List.length_drop]
      omega
    rw [conditionAt?, hcondition, Option.map_some, hplace]

/-- Behind `{{#if` a condition is read exactly if a tag stands there. -/
theorem readCondition?_eq_some_iff (hopen : blockOpening <+: t.drop start)
    (hfinish : finish ≤ t.length) :
    readCondition? (t.drop (start + blockOpening.length)) =
      some (name, t.drop finish) ↔
      IsTag (t.extract start finish) name := by
  obtain ⟨inside, hinside⟩ := hopen
  have hdrop : t.drop (start + blockOpening.length) = inside := by
    rw [← List.drop_drop, ← hinside, List.drop_left]
  have htag : ∀ blanks, t.extract start finish = blockTag blanks name ↔
      inside = blanks ++ name ++ closing ++ t.drop finish := by
    intro blanks
    rw [extract_eq_iff (by simp [blockTag, blockOpening]) hfinish,
      ← hinside, blockTag]
    simp
  rw [hdrop]
  constructor
  · intro hread
    obtain ⟨blanks, hblanks, hname, hrest⟩ := eq_append_of_readCondition? hread
    exact ⟨blanks, hblanks, hname, (htag blanks).mpr hrest⟩
  · rintro ⟨blanks, hblanks, hname, hpart⟩
    rw [(htag blanks).mp hpart]
    exact readCondition?_append hblanks hname _

/-- **Tags are read by their grammar.**  At a place of a text where `{{#if`
stands, a name and a place behind are read exactly if the text up to that place
is the tag of the name: `{{#if`, blanks, of which there is at least one, the
name and `}}`.  There is at most one such tag, which ends within the text, and
nothing is read exactly if there is none. -/
theorem tags_are_read_by_their_grammar {t : List Char} {start : Nat}
    (hopen : blockOpening <+: t.drop start) :
    (∀ name finish, conditionAt? t start = some (name, finish) ↔
      finish ≤ t.length ∧ IsTag (t.extract start finish) name) ∧
    (∀ name finish other last, finish ≤ t.length →
      IsTag (t.extract start finish) name →
      last ≤ t.length → IsTag (t.extract start last) other →
      name = other ∧ finish = last) ∧
    (conditionAt? t start = none ↔ ∀ name finish, finish ≤ t.length →
      ¬ IsTag (t.extract start finish) name) := by
  have hread : ∀ name finish, conditionAt? t start = some (name, finish) ↔
      finish ≤ t.length ∧ IsTag (t.extract start finish) name := by
    intro name finish
    rw [conditionAt?_eq_some_iff]
    exact and_congr_right fun hfinish =>
      readCondition?_eq_some_iff hopen hfinish
  refine ⟨hread, ?_, ?_⟩
  · intro name finish other last hfinish htag hlast hother
    have hfirst := (hread name finish).mpr ⟨hfinish, htag⟩
    have hsecond := (hread other last).mpr ⟨hlast, hother⟩
    exact Prod.mk.inj (Option.some.inj (hfirst.symm.trans hsecond))
  · rw [Option.eq_none_iff_forall_ne_some]
    constructor
    · intro hnone name finish hfinish htag
      exact hnone (name, finish) ((hread name finish).mpr ⟨hfinish, htag⟩)
    · rintro hnever ⟨name, finish⟩ hsome
      obtain ⟨hfinish, htag⟩ := (hread name finish).mp hsome
      exact hnever name finish hfinish htag

/-- Behind a greeting the tag of a name is read, with a no-break space and a
space in it, and there is no other tag at that place.  Where the end of the text
cuts it off there is none at all. -/
theorem tag_behind_a_greeting :
    let tag := "\x7b\x7b#if\u00a0 vip\x7d\x7d".toList
    let t := "Hi ".toList ++ tag ++ "!".toList
    let cutOff := t.take 14
    (blockOpening <+: t.drop 3 ∧ blockOpening <+: cutOff.drop 3) ∧
    t.extract 3 15 = tag ∧ conditionAt? t 3 = some ("vip".toList, 15) ∧
    (∀ name finish, finish ≤ t.length → IsTag (t.extract 3 finish) name →
      name = "vip".toList ∧ finish = 15) ∧
    ∀ name finish, finish ≤ cutOff.length →
      ¬ IsTag (cutOff.extract 3 finish) name := by
  intro tag t cutOff
  have hopen : blockOpening <+: t.drop 3 := by decide
  have hopen' : blockOpening <+: cutOff.drop 3 := by decide
  obtain ⟨hread, hunique, -⟩ := tags_are_read_by_their_grammar hopen
  obtain ⟨-, -, hnone⟩ := tags_are_read_by_their_grammar hopen'
  have htag : IsTag (t.extract 3 15) "vip".toList :=
    ⟨"\u00a0 ".toList, by decide, by decide, by decide⟩
  refine ⟨⟨hopen, hopen'⟩, by
    decide, (hread _ _).mpr ⟨by decide, htag⟩, ?_, hnone.mp (by decide)⟩
  intro name finish hfinish hother
  exact hunique name finish _ 15 hfinish hother (by decide) htag

end Notices.Markup
