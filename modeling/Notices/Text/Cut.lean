/-!
# Cutting a text at a pattern

`cut pat s` splits `s` at the first place where `pat` stands: the text before
it and the text after it.

* `eq_append_of_cut` says that nothing is lost: the two parts with the pattern
  between them are the text.
* `length_after_lt` says that the part after a non-empty pattern is shorter than
  the text, which is what the passes over a template recurse on.
-/

namespace Notices.Text

variable {α : Type} [DecidableEq α]

/-- The parts of a text before and after the first occurrence of a pattern. -/
def cut (pat : List α) : List α → Option (List α × List α)
  | [] => if pat = [] then some ([], []) else none
  | c :: cs =>
    if pat.isPrefixOf (c :: cs) then some ([], (c :: cs).drop pat.length)
    else (cut pat cs).map fun parts => (c :: parts.1, parts.2)

/-- What stands before the pattern, the pattern and what stands
after it make up the text. -/
theorem eq_append_of_cut {pat s before after : List α}
    (h : cut pat s = some (before, after)) :
    s = before ++ pat ++ after := by
  induction s generalizing before after with
  | nil =>
    simp only [cut] at h
    split at h
    · next hp =>
      obtain ⟨rfl, rfl⟩ := Prod.mk.inj (Option.some.inj h)
      simp [hp]
    · cases h
  | cons c cs ih =>
    simp only [cut] at h
    split at h
    · next hp =>
      obtain ⟨rfl, rfl⟩ := Prod.mk.inj (Option.some.inj h)
      simpa using (List.prefix_iff_eq_append.mp
        (List.isPrefixOf_iff_prefix.mp hp)).symm
    · obtain ⟨⟨b, a⟩, hcut, heq⟩ := Option.map_eq_some_iff.mp h
      obtain ⟨rfl, rfl⟩ := Prod.mk.inj heq
      simp [ih hcut]

/-- The two parts are as long as the text less the pattern. -/
theorem length_of_cut {pat s before after : List α}
    (h : cut pat s = some (before, after)) :
    s.length = before.length + pat.length + after.length := by
  rw [eq_append_of_cut h]
  simp [Nat.add_assoc]

/-- After a pattern that is not empty a shorter text is left. -/
theorem length_after_lt {pat s before after : List α} (hpat : pat ≠ [])
    (h : cut pat s = some (before, after)) : after.length < s.length := by
  have hlen := length_of_cut h
  have hpos := List.length_pos_iff.mpr hpat
  omega

end Notices.Text
