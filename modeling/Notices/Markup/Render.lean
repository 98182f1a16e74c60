import Notices.Markup.Conditional
import Notices.Markup.Substitute
import Notices.Value.Spelling

/-!
# Rendering a template

`render escape template data` fills in the placeholders and then decides the
conditional blocks.  Both passes read the same fields: a placeholder is filled
in with the escaped spelling of a field that is there and not null, and a block
is kept if its field counts as given.

A field may hold a value that cannot be written.  `render?` is what is run: it
fails if it comes to the placeholder of such a field, and else it is `render`.
-/

namespace Notices.Markup

/-- The text that a field puts in the place of its placeholder. -/
def insertion (escape : List Char → List Char) (data : Fields)
    (name : List Char) :
    Option (List Char) :=
  (data.present? (String.ofList name)).map fun v => escape v.spell

/-- The text that a field puts in the place of its placeholder, or why it has
none. -/
def insertion? (escape : List Char → List Char) (data : Fields)
    (name : List Char) :
    Option (Except Failure (List Char)) :=
  (data.present? (String.ofList name)).map fun v => v.write.map escape

/-- Whether the condition of a block holds. -/
def holdsIn (data : Fields) (name : List Char) : Bool :=
  (data.get? (String.ofList name)).any Value.isTruthy

/-- The first pass over a template. -/
def fillIn (escape : List Char → List Char) (data : Fields) (t : List Char) :
    List Char :=
  substitute (insertion escape data) t

/-- The first pass over a template, with values that may be too long. -/
def fillIn? (escape : List Char → List Char) (data : Fields) (t : List Char) :
    Except Failure (List Char) :=
  substitute? (insertion? escape data) t

/-- The second pass. -/
def decideBlocks (data : Fields) (t : List Char) : List Char :=
  conditionals (holdsIn data) t

/-- A template with its placeholders filled in and its blocks decided. -/
def render (escape : List Char → List Char) (data : Fields)
    (template : List Char) : List Char :=
  decideBlocks data (fillIn escape data template)

/-- Fills the placeholders of a template in and decides its blocks, if all that
is to be filled in can be written. -/
def render? (escape : List Char → List Char) (data : Fields)
    (template : List Char) :
    Except Failure (List Char) :=
  (fillIn? escape data template).map (decideBlocks data)

/-- A template rendered with the values as they are. -/
def renderText (data : Fields) (template : String) : String :=
  String.ofList (render id data template.toList)

/-- Renders a template with the values as they are, if they can be written. -/
def renderText? (data : Fields) (template : String) : Except Failure String :=
  (render? id data template.toList).map String.ofList

end Notices.Markup
