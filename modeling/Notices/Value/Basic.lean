import Notices.Time.Timestamp

/-!
# Values

A value is what a message is filled in with and what a stored document holds:
the values of a data exchange format, and timestamps.  The fields of an object
keep the order in which they were first set.

* `Fields.get?_set_self` and `Fields.get?_set_other` say what a field reads
  after another was set, and `Fields.get?_filter` what it reads among the
  fields that pass a test.
-/

namespace Notices

/-- A value of a document. -/
inductive Value where
  | null
  | bool (b : Bool)
  | int (n : Int)
  | real (x : Binary64)
  | string (s : String)
  | time (t : Timestamp)
  | list (items : List Value)
  | object (fields : List (String × Value))
  deriving Repr, Inhabited

/-- Named values in the order in which the names were first set. -/
abbrev Fields := List (String × Value)

namespace Fields

/-- The value of a field. -/
def get? : Fields → String → Option Value
  | [], _ => none
  | (key, v) :: rest, name => if key = name then some v else get? rest name

/-- The value of a field that is there and not null. -/
def present? (fields : Fields) (name : String) : Option Value :=
  match fields.get? name with
  | some .null => none
  | found => found

/-- Gives a field a value: in its place if it is there already, and
else behind the others. -/
def set : Fields → String → Value → Fields
  | [], name, v => [(name, v)]
  | (key, w) :: rest, name, v =>
    if key = name then (key, v) :: rest else (key, w) :: set rest name v

/-- Removes a field. -/
def erase (fields : Fields) (name : String) : Fields :=
  fields.filter fun field => field.1 != name

/-- A field is missing if no entry has its name. -/
theorem get?_eq_none_iff {fields : Fields} {name : String} :
    fields.get? name = none ↔ ∀ field ∈ fields, field.1 ≠ name := by
  induction fields with
  | nil => simp [get?]
  | cons field rest ih =>
    by_cases h : field.1 = name <;> simp [get?, h, ih]

/-- Of the fields whose names pass a test, those read as before, and no other is
there. -/
theorem get?_filter (test : String → Bool) (fields : Fields) (name : String) :
    get? (fields.filter fun field => test field.1) name =
      if test name then fields.get? name else none := by
  induction fields with
  | nil => simp [get?]
  | cons field rest ih =>
    by_cases hname : field.1 = name
    · subst hname
      by_cases htest : test field.1 = true <;> simp [get?, htest, ih]
    · by_cases htest : test field.1 = true <;> simp [get?, hname, htest, ih]

/-- A field that was set reads as the value it was given. -/
theorem get?_set_self (fields : Fields) (name : String) (v : Value) :
    (fields.set name v).get? name = some v := by
  induction fields with
  | nil => simp [set, get?]
  | cons field rest ih =>
    by_cases h : field.1 = name <;> simp [set, get?, h, ih]

/-- Setting a field leaves the others as they were. -/
theorem get?_set_other (fields : Fields) {name other : String} (v : Value)
    (h : other ≠ name) :
    (fields.set name v).get? other = fields.get? other := by
  induction fields with
  | nil => simp [set, get?, Ne.symm h]
  | cons field rest ih =>
    by_cases hk : field.1 = name
    · simp [set, get?, hk, Ne.symm h]
    · simp [set, get?, hk, ih]

end Fields

end Notices
