import Notices.Markup.Tag

/-!
# Filling in placeholders

`substitute fill t` goes through a template once, from left to right.  A
placeholder `{{name}}` for which `fill` has a text is replaced by that text, and
the pass goes on behind it, so that what was inserted is never looked at again.
Anything else stays as it is: where two braces open no such placeholder, the
first of them is kept and the pass goes on with the second, and without a `}}`
further on nothing is left to do.

`substitute? fill t` is the same pass with texts that it may not be possible to
write.  It fails at the first of these.

Messages insert values as they are, since a value may hold markup on purpose; a
caller that wants plain text inserts escaped values.  `escape` replaces the five
characters that have a meaning in a markup document by references to them.
-/

namespace Notices.Markup

/-- What there is for a placeholder, if what stands between the braces is a name
that has something. -/
def filled {α : Type} (fill : List Char → Option α) (name : List Char) :
    Option α :=
  if isName name then fill name else none

/-- Replaces the placeholders that have a text. -/
def substitute (fill : List Char → Option (List Char)) (t : List Char) :
    List Char :=
  match _ : Text.cut opening t with
  | none => t
  | some (before, inside) =>
    match _ : Text.cut closing inside with
    | none => t
    | some (name, after) =>
      match filled fill name with
      | some text => before ++ text ++ substitute fill after
      | none => before ++ '{' :: substitute fill ('{' :: inside)
termination_by t.length
decreasing_by
  · have hinside := Text.length_after_lt (by decide) ‹Text.cut opening t = _›
    have hafter :=
      Text.length_after_lt (by decide) ‹Text.cut closing inside = _›
    omega
  · have hinside := Text.length_of_cut ‹Text.cut opening t = _›
    simp only [opening, List.length_cons, List.length_nil] at hinside ⊢
    omega

/-- Replaces the placeholders that have a text, up to one that cannot be
written. -/
def substitute? {ε : Type} (fill : List Char → Option (Except ε (List Char)))
    (t : List Char) : Except ε (List Char) :=
  match _ : Text.cut opening t with
  | none => .ok t
  | some (before, inside) =>
    match _ : Text.cut closing inside with
    | none => .ok t
    | some (name, after) =>
      match filled fill name with
      | some written => do
        let text ← written
        return before ++ text ++ (← substitute? fill after)
      | none => do return before ++ '{' :: (← substitute? fill ('{' :: inside))
termination_by t.length
decreasing_by
  · have hinside := Text.length_after_lt (by decide) ‹Text.cut opening t = _›
    have hafter :=
      Text.length_after_lt (by decide) ‹Text.cut closing inside = _›
    omega
  · have hinside := Text.length_of_cut ‹Text.cut opening t = _›
    simp only [opening, List.length_cons, List.length_nil] at hinside ⊢
    omega

/-! ## Escaping -/

/-- A character, or the reference that stands for it. -/
def escapeChar (c : Char) : List Char :=
  if c == '&' then "&amp;".toList
  else if c == '<' then "&lt;".toList
  else if c == '>' then "&gt;".toList
  else if c == '"' then "&quot;".toList
  else if c == '\'' then "&#x27;".toList
  else [c]

/-- A text with references for the characters that have a meaning in markup. -/
def escape (s : List Char) : List Char := s.flatMap escapeChar

end Notices.Markup
