/-!
# Faults of a record

A document or a request body is read into a record field by field.  A `Fault`
says what is wrong with one part of it, and where: its path leads from the whole
document to that part.  `Checked` is the result of reading: a value, or all the
faults that were found, in the order of the fields.

* `Checked.andAlso` combines two results and keeps all their faults in their
  order.
-/

namespace Notices

/-- A step of a path into a document: the name of a field, a position, or what a
part should have been of which there are several alternatives. -/
inductive Step where
  | field (name : String)
  | position (n : Nat)
  | alternative (name : String)
  deriving DecidableEq, Repr

/-- What can be wrong with a part of a document. -/
inductive FaultKind where
  | missing
  | notText
  | notBool
  | notBoolSpelling
  | notOneOf
  | notInteger
  | notNumber
  | notIntegerSpelling
  | integerTooLong
  | notNumberSpelling
  | notTime
  | timeOutOfRange
  | notTimeSpelling
  | notRecord
  | notBody
  | notJson
  | tooSmall
  | tooLarge
  deriving DecidableEq, Repr

/-- The code by which a fault is reported. -/
def FaultKind.code : FaultKind → String
  | .missing => "missing"
  | .notText => "string_type"
  | .notBool => "bool_type"
  | .notBoolSpelling => "bool_parsing"
  | .notOneOf => "enum"
  | .notInteger => "int_type"
  | .notNumber => "float_type"
  | .notIntegerSpelling => "int_parsing"
  | .integerTooLong => "int_parsing_size"
  | .notNumberSpelling => "float_parsing"
  | .notTime => "datetime_type"
  | .timeOutOfRange => "datetime_parsing"
  | .notTimeSpelling => "datetime_from_date_parsing"
  | .notRecord => "model_type"
  | .notBody => "model_attributes_type"
  | .notJson => "json_invalid"
  | .tooSmall => "greater_than_equal"
  | .tooLarge => "less_than_equal"

/-- A fault and the path to the part that has it. -/
structure Fault where
  path : List Step
  kind : FaultKind
  deriving DecidableEq, Repr

/-- The result of reading: a value, or the faults that were found. -/
inductive Checked (α : Type) where
  | ok (a : α)
  | failed (faults : List Fault)
  deriving Repr

namespace Checked

variable {α β : Type}

/-- The faults that were found. -/
def faults : Checked α → List Fault
  | .ok _ => []
  | .failed fs => fs

/-- The value, if there is one. -/
def value? : Checked α → Option α
  | .ok a => some a
  | .failed _ => none

/-- A result with a single fault of the whole part that was read. -/
def fault (kind : FaultKind) : Checked α := .failed [⟨[], kind⟩]

/-- Applies a function to the value. -/
def map (f : α → β) : Checked α → Checked β
  | .ok a => .ok (f a)
  | .failed fs => .failed fs

/-- Applies one result to another.  If both failed, the faults of
the first come first. -/
def andAlso (f : Checked (α → β)) (a : Checked α) : Checked β :=
  match f, a with
  | .ok f, .ok a => .ok (f a)
  | .ok _, .failed fs => .failed fs
  | .failed fs, .ok _ => .failed fs
  | .failed fs, .failed gs => .failed (fs ++ gs)

/-- Goes on with the value, which a later check needs. -/
def andThen (a : Checked α) (f : α → Checked β) : Checked β :=
  match a with
  | .ok a => f a
  | .failed fs => .failed fs

/-- Leads the paths of the faults through a step. -/
def under (step : Step) : Checked α → Checked α
  | .ok a => .ok a
  | .failed fs => .failed (fs.map fun f => { f with path := step :: f.path })

instance : Functor Checked where
  map := Checked.map

instance : Applicative Checked where
  pure := .ok
  seq f a := Checked.andAlso f (a ())

/-- A function is applied to a value. -/
@[simp] theorem map_ok (f : α → β) (a : α) : f <$> Checked.ok a = .ok (f a) :=
  rfl

/-- A function that was read is applied to a value that was read. -/
@[simp] theorem seq_ok (f : α → β) (a : α) :
    Checked.ok f <*> Checked.ok a = .ok (f a) := rfl

/-- A value has no paths to lead through a step. -/
@[simp] theorem under_ok (step : Step) (a : α) :
    (Checked.ok a).under step = .ok a := rfl

end Checked

end Notices
