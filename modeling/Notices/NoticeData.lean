import Notices.Record.Field
import Notices.Value.Finite

/-!
# The data of a notice

The data that a notice is filled in with has fields that every trigger knows,
each a text, a number or null, and further fields of any kind.  The known ones
come first, in a fixed order, and a known field that is left out is null.

* `NoticeData.context` is what a template sees: the fields that are not null.
* `NoticeData.toValue` is the data as a document, whose further fields
  hold finite numbers only.
-/

namespace Notices

/-- The data of a notice: the known fields in their order, then the further
ones. -/
structure NoticeData where
  fields : Fields
  deriving Repr, Inhabited

namespace NoticeData

/-- The names of the known fields. -/
def knownNames : List String := [
  "customer_name", "customer_email", "customer_phone", "customer_id",
  "invoice_number", "total_amount", "items_list", "items_list_text",
  "invoice_url", "invoice_id", "due_date", "tracking_number", "carrier",
  "tracking_url", "shipment_id", "item_name", "item_description", "item_price",
  "park", "image_url", "request_url", "unsubscribe_url", "release_id"]

/-- The data that knows no field. -/
def empty : NoticeData := ⟨knownNames.map fun name => (name, .null)⟩

/-- Reads the fields of a list of names, each a value that a message
can be filled in with. -/
def readKnown (fields : Fields) : List String → Checked Fields
  | [] => .ok []
  | name :: rest =>
    (fun v found => (name, v) :: found) <$>
      Record.withDefault fields name .null Record.scalar
      <*> readKnown fields rest

/-- Reads the data of a notice. -/
def read (otherwise : FaultKind) : Record.Reader NoticeData := fun v =>
  (Record.fieldsOf otherwise v).andThen fun fields =>
    (readKnown fields knownNames).map fun known =>
      ⟨known ++ fields.filter fun field => !knownNames.contains field.1⟩

/-- Whether a value is null. -/
def isNull : Value → Bool
  | .null => true
  | _ => false

/-- What a template sees: the fields that are not null. -/
def context (d : NoticeData) : Fields :=
  d.fields.filter fun field => !isNull field.2

/-- The data as a document. -/
def toValue (d : NoticeData) : Value :=
  .object <| d.fields.map fun field =>
    if knownNames.contains field.1 then field else (field.1, field.2.finitePart)

end NoticeData

end Notices
