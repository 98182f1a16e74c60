/-!
# Parts of a text

`parts` takes a text apart at every occurrence of a separator, and `join` puts
parts together with a text between them.
-/

namespace Notices.Text

variable {α : Type} [DecidableEq α]

/-- The parts of a text between the occurrences of a separator. -/
def parts (separator : α) : List α → List (List α)
  | [] => [[]]
  | c :: rest =>
    if c = separator then [] :: parts separator rest
    else
      match parts separator rest with
      | [] => [[c]]
      | part :: more => (c :: part) :: more

/-- Joins texts with a text between them. -/
def join (between : List α) : List (List α) → List α
  | [] => []
  | [s] => s
  | s :: rest => s ++ between ++ join between rest

end Notices.Text
