import Notices.Email.Glyph
import Notices.Email.MailError

/-!
# Reading a header

A `Reader` reads something from the front of a header and leaves the rest.  It
stops with a mismatch where the header does not have the form that is read, and
then another form can be tried; or with an error, which no other form can mend.

* `orElse` tries a second form where the first one does not match.
* `many` reads as often as a step reads something.  Each step has to shorten the
  header, so that it ends.
-/

namespace Notices.Email

/-- Why a reader stops. -/
inductive Stop where
  | mismatch
  | error (e : MailError)
  deriving DecidableEq, Repr

/-- Reads something from the front of a header. -/
abbrev Reader (α : Type) := StateT Glyphs (Except Stop) α

/-- Reads as often as a step reads something. -/
def many {m : Type → Type} [Monad m] {α : Type}
    (step : StateT Glyphs m (Option α)) :
    StateT Glyphs m (List α) := fun s => do
  match ← step s with
  | (none, rest) => return ([], rest)
  | (some a, rest) =>
    if _h : rest.length < s.length then
      let (more, rest) ← many step rest
      return (a :: more, rest)
    else return ([a], rest)
termination_by s => s.length

namespace Reader

/-- The header does not have the form. -/
def mismatch {α : Type} : Reader α := throw .mismatch

/-- There is no reading of the header. -/
def fail {α : Type} (e : MailError) : Reader α := throw (.error e)

/-- Tries a second form where the first one does not match. -/
def orElse {α : Type} (first second : Reader α) : Reader α := fun s =>
  match first s with
  | .error .mismatch => second s
  | result => result

/-- Whether the header is at its end. -/
def atEnd : Reader Bool := return (← get).isEmpty

/-- Whether a character of a class is next. -/
def nextIs (p : Char → Bool) : Reader Bool :=
  return (← get).head?.any (·.isIn p)

/-- Leaves out the next glyph. -/
def skip : Reader Unit := modify (·.drop 1)

/-- Leaves out a character if it is next, and says whether it was. -/
def skipIf (c : Char) : Reader Bool := do
  let found ← nextIs (· == c)
  if found then skip
  return found

/-- Leaves out a character that has to be next. -/
def expect (c : Char) : Reader Unit := do
  if !(← skipIf c) then mismatch

end Reader

end Notices.Email
