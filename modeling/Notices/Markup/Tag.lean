import Notices.Text.Class
import Notices.Text.Cut

/-!
# The tags of a template

A template has three kinds of tags: a placeholder `{{name}}`, the opening
`{{#if name}}` of a conditional block and its closer `{{/if}}`.  A name is a
non-empty run of ASCII letters, digits and underscores.

* `readCondition?` reads what stands behind `{{#if`: blanks, a name and `}}`.
  `conditionAt?` does so for a tag at a place of a text.
* `length_body_lt` says that it leaves a shorter text, the body of the
  block and what follows it.
-/

namespace Notices.Markup

/-- What every tag begins with. -/
def opening : List Char := ['{', '{']

/-- What every tag ends with. -/
def closing : List Char := ['}', '}']

/-- What the opening tag of a block begins with. -/
def blockOpening : List Char := ['{', '{', '#', 'i', 'f']

/-- The tag that closes a block. -/
def blockClosing : List Char := ['{', '{', '/', 'i', 'f', '}', '}']

/-- The characters of a name: ASCII letters, digits and the underscore. -/
def isNameChar (c : Char) : Bool := c.isAlphanum || c == '_'

/-- Whether a text is a name. -/
def isName (s : List Char) : Bool := !s.isEmpty && s.all isNameChar

/-- The placeholder of a name. -/
def placeholder (name : List Char) : List Char := opening ++ name ++ closing

/-- Reads the condition of a block, which stands behind `{{#if`: the name, and
the text behind the tag. -/
def readCondition? (s : List Char) : Option (List Char × List Char) :=
  let afterBlanks := s.dropWhile Text.isBlank
  let name := afterBlanks.takeWhile isNameChar
  if afterBlanks.length = s.length || name.isEmpty then none
  else
    match afterBlanks.dropWhile isNameChar with
    | '}' :: '}' :: body => some (name, body)
    | _ => none

/-- Reads the condition of a block whose tag begins at a place of a text: the
name, and the place behind the tag. -/
def conditionAt? (t : List Char) (start : Nat) : Option (List Char × Nat) :=
  (readCondition? (t.drop (start + blockOpening.length))).map fun found =>
    (found.1, t.length - found.2.length)

/-- The text behind a tag is shorter than the text from its blanks on. -/
theorem length_body_lt {s name body : List Char}
    (h : readCondition? s = some (name, body)) :
    body.length < s.length := by
  simp only [readCondition?] at h
  split at h
  · cases h
  · split at h
    · next b hrest =>
      obtain ⟨_, rfl⟩ := Prod.mk.inj (Option.some.inj h)
      have hname :=
        List.IsSuffix.length_le (List.dropWhile_suffix (p := isNameChar)
        (l := s.dropWhile Text.isBlank))
      have hblank :=
        List.IsSuffix.length_le
          (List.dropWhile_suffix (p := Text.isBlank) (l := s))
      rw [hrest] at hname
      simp only [List.length_cons] at hname
      omega
    · cases h

end Notices.Markup
