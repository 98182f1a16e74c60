import Notices.Number.Numeral
import Notices.Record.Fault
import Notices.Value.Basic

/-!
# Reading fields

Readers turn a value into what a field of a record holds, and are lenient where
nothing is lost: a yes or no may be spelled in several ways, and a time may be
given as a text or as a count of seconds.

* `required` asks for a field, `withDefault` does without it, and
  `nullable` lets it be null.
* `fieldsOf` asks for an object, of which unknown fields are simply not read.
* `nullable_text_ofOption` says that an optional text is read as it was written.
-/

namespace Notices

/-- The part of a value that a path leads to, as far as it leads anywhere. -/
def Value.part : Value → List Step → Value
  | .object fields, .field name :: rest =>
    match Fields.get? fields name with
    | some v => v.part rest
    | none => .object fields
  | .list items, .position n :: rest =>
    match items[n]? with
    | some v => v.part rest
    | none => .list items
  | v, _ => v

namespace Record

/-- A reader of a value. -/
abbrev Reader (α : Type) := Value → Checked α

/-- Reads a text. -/
def text : Reader String
  | .string s => .ok s
  | _ => .fault .notText

/-- The spellings of yes. -/
def yesSpellings : List String := ["1", "true", "t", "yes", "y", "on"]

/-- The spellings of no. -/
def noSpellings : List String := ["0", "false", "f", "no", "n", "off"]

/-- Reads a spelling of yes or no, in upper or lower case. -/
def flagOfText (s : String) : Checked Bool :=
  let spelling := String.ofList (s.toList.map Char.toLower)
  if yesSpellings.contains spelling then .ok true
  else if noSpellings.contains spelling then .ok false
  else .fault .notBoolSpelling

/-- Reads one as yes and zero as no.  Other integers of a machine word are
misspelled. -/
def flagOfInt (n : Int) : Checked Bool :=
  if n = 1 then .ok true
  else if n = 0 then .ok false
  else if -0x8000000000000000 ≤ n ∧
    n < 0x8000000000000000 then .fault .notBoolSpelling
  else .fault .notBool

/-- Reads a yes or no. -/
def flag : Reader Bool
  | .bool b => .ok b
  | .string s => flagOfText s
  | .int n => flagOfInt n
  | .real x =>
    match x.toInt? with
    | some n => flagOfInt n
    | none => .fault .notBool
  | _ => .fault .notBool

/-- Reads a whole number from its text. -/
def integerOfText (s : List Char) : Checked Int :=
  match Numeral.readInt s with
  | .ok n => .ok n
  | .error .spelling => .fault .notIntegerSpelling
  | .error .tooLong => .fault .integerTooLong

/-- Reads a whole number that is given as a text. -/
def integerText : Reader Int
  | .string s => integerOfText s.toList
  | _ => .fault .notInteger

/-- Reads a number that is given as a text. -/
def numberText : Reader Binary64
  | .string s =>
    match Numeral.readReal? s.toList with
    | some x => .ok x
    | none => .fault .notNumberSpelling
  | _ => .fault .notNumber

/-- A time that was counted, if it is one of the calendar. -/
def counted (t : Option Timestamp) : Checked Timestamp :=
  match t.filter Timestamp.isInCalendar with
  | some t => .ok t
  | none => .fault .timeOutOfRange

/-- Reads a time.  A count too large for binary64 is none. -/
def time : Reader Timestamp
  | .time t => .ok t
  | .string s =>
    match Timestamp.read s.toList with
    | .ok t => .ok t
    | .error .unreadable => .fault .notTimeSpelling
    | .error .yearZero => .fault .timeOutOfRange
  | .int n =>
    if (Binary64.ofInt n).ratio?.isNone then .fault .notTime
      else counted (Timestamp.ofCount? n)
  | .real x => counted (Timestamp.ofReal? x)
  | _ => .fault .notTime

/-- Reads one of finitely many words. -/
def oneOf {α : Type} (ofWord? : String → Option α) : Reader α
  | .string s =>
    match ofWord? s with
    | some a => .ok a
    | none => .fault .notOneOf
  | _ => .fault .notOneOf

/-- Reads a value that a message can be filled in with: a text, a number or
null.  A yes is the number one and a no is zero. -/
def scalar : Reader Value
  | .bool b => .ok (.int (if b then 1 else 0))
  | .list _ | .object _ | .time _ =>
    .failed [⟨[.alternative "str"], .notText⟩,
      ⟨[.alternative "int"], .notInteger⟩, ⟨[.alternative "float"], .notNumber⟩]
  | v => .ok v

/-- Reads null as nothing. -/
def nullable {α : Type} (read : Reader α) : Reader (Option α)
  | .null => .ok none
  | v => (read v).map some

/-- Reads a field that has to be there. -/
def required {α : Type} (fields : Fields) (name : String) (read : Reader α) :
    Checked α :=
  match Fields.get? fields name with
  | some v => (read v).under (.field name)
  | none => .failed [⟨[.field name], .missing⟩]

/-- Reads a field if it is there. -/
def withDefault {α : Type} (fields : Fields) (name : String) (default : α)
    (read : Reader α) :
    Checked α :=
  match Fields.get? fields name with
  | some v => (read v).under (.field name)
  | none => .ok default

/-- Reads a text that may be left out or null. -/
def optionalText (fields : Fields) (name : String) : Checked (Option String) :=
  withDefault fields name none (nullable text)

/-- Reads an object; anything else has the given fault. -/
def fieldsOf (otherwise : FaultKind) : Reader Fields
  | .object fields => .ok fields
  | _ => .fault otherwise

/-- A text, or null. -/
def ofOption : Option String → Value
  | some s => .string s
  | none => .null

/-- A text is read as itself. -/
@[simp] theorem text_string (s : String) : text (.string s) = .ok s := rfl

/-- A yes or no is read as itself. -/
@[simp] theorem flag_bool (b : Bool) : flag (.bool b) = .ok b := rfl

/-- A time is read as itself. -/
@[simp] theorem time_time (t : Timestamp) : time (.time t) = .ok t := rfl

/-- A text that is written as itself or as null is read again. -/
@[simp] theorem nullable_text_ofOption (o : Option String) :
    nullable text (ofOption o) = .ok o := by
  cases o <;> rfl

end Record

end Notices
