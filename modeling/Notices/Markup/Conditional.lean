import Notices.Markup.Tag

/-!
# Conditional blocks

`conditionals holds t` goes through a text once, from left to right.  A block
begins with a tag `{{#if name}}` and ends with the first `{{/if}}` behind that
tag; blocks do not nest.  The block is replaced by its body if `holds name`,
and else by nothing, and the pass goes on behind it without looking at the
body again.  Where `{{#if` opens no tag its first brace is kept and the pass
goes on with the second.  A tag without closer ends the pass, since then no
later block can be closed either.
-/

namespace Notices.Markup

/-- Keeps the bodies of the blocks whose condition holds and drops the other
blocks. -/
def conditionals (holds : List Char → Bool) (t : List Char) : List Char :=
  match _ : Text.cut blockOpening t with
  | none => t
  | some (before, inside) =>
    match _ : readCondition? inside with
    | none =>
        before ++ '{' :: conditionals holds (blockOpening.drop 1 ++ inside)
    | some (name, block) =>
      match _ : Text.cut blockClosing block with
      | none => t
      | some (body, after) =>
        before ++ (if holds name then body else []) ++ conditionals holds after
termination_by t.length
decreasing_by
  · have hinside := Text.length_of_cut ‹Text.cut blockOpening t = _›
    simp only [blockOpening, List.drop_succ_cons, List.drop_zero,
      List.length_append, List.length_cons, List.length_nil] at hinside ⊢
    omega
  · have hinside :=
      Text.length_after_lt (by decide) ‹Text.cut blockOpening t = _›
    have hblock := length_body_lt ‹readCondition? inside = _›
    have hafter :=
      Text.length_after_lt (by decide) ‹Text.cut blockClosing block = _›
    omega

end Notices.Markup
