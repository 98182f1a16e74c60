import Notices.Record.Field

/-!
# Channels

A notice goes out by email, by SMS, or by both.
-/

namespace Notices

/-- A way on which notices go out. -/
inductive Channel where
  | email
  | sms
  deriving DecidableEq, Repr, Inhabited

namespace Channel

/-- The word for a channel. -/
def word : Channel → String
  | .email => "email"
  | .sms => "sms"

/-- The channel of a word. -/
def ofWord? (s : String) : Option Channel :=
  if s = "email" then some .email else if s = "sms" then some .sms else none

/-- Exactly the two words name a channel, and each the one whose word it is. -/
theorem ofWord?_eq_some_iff {s : String} {c : Channel} :
    ofWord? s = some c ↔ s = c.word := by
  cases c <;> grind [ofWord?, word]

/-- Reads a channel. -/
def read : Record.Reader Channel := Record.oneOf ofWord?

/-- The word for a channel is read as that channel. -/
@[simp] theorem read_word (c : Channel) : read (.string c.word) = .ok c := by
  cases c <;> rfl

end Channel

end Notices
