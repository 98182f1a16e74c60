/-!
# Failures from outside

What the service depends on, a store, a provider or a network, may fail with a
kind of failure and a text.
-/

namespace Notices

/-- A failure of something outside. -/
structure Failure where
  kind : String
  text : String
  deriving DecidableEq, Repr, Inhabited

namespace Failure

/-- What is reported of a failure: its text, or its kind if it has no text. -/
def message (f : Failure) : String := if f.text.isEmpty then f.kind else f.text

/-- A failure that has a kind is reported by some text. -/
theorem message_ne_empty {f : Failure} (h : f.kind ≠ "") : f.message ≠ "" := by
  unfold message
  split
  · exact h
  · next htext => simpa using htext

end Failure

end Notices
