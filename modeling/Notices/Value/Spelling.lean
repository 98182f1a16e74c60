import Notices.Failure
import Notices.Text.Parts
import Notices.Text.Quoted
import Notices.Value.Basic

/-!
# How values are spelled in a message

`Value.spell` is the text that stands for a value in a message, in a telephone
number and in the log.  A string stands for itself; inside a list or an object
it is quoted.  `Value.isTruthy` says whether a value counts as given, which
decides a conditional block.

An integer is only written up to a number of digits.  `Value.write` spells a
value out, and fails if there is a longer integer anywhere in it.

* `Value.isWritable_int` says which integers are written, by their digits.
* `Value.write_of_isWritable` and `Value.write_of_not_isWritable` say what
  becomes of a value.
-/

namespace Notices.Value

mutual

/-- The text of a value inside a list or an object. -/
def literal : Value → List Char
  | .null => "None".toList
  | .bool b => if b then "True".toList else "False".toList
  | .int n => intText n
  | .real x => x.text
  | .string s => Text.quoted s.toList
  | .time t => t.text
  | .list items => '[' :: Text.join ", ".toList (literals items) ++ [']']
  | .object fields =>
      '{' :: Text.join ", ".toList (fieldLiterals fields) ++ ['}']

/-- The texts of the items of a list. -/
def literals : List Value → List (List Char)
  | [] => []
  | v :: rest => literal v :: literals rest

/-- The texts of the fields of an object. -/
def fieldLiterals : List (String × Value) → List (List Char)
  | [] => []
  | (name, v) :: rest =>
      (Text.quoted name.toList ++ ": ".toList ++ literal v) ::
        fieldLiterals rest

end

/-- The text that stands for a value in a message, if it can be written. -/
def spell : Value → List Char
  | .string s => s.toList
  | v => literal v

mutual

/-- Whether no integer in a value has too many digits to be written. -/
def isWritable : Value → Bool
  | .int n => n.natAbs < Nat.pow 10 mostDigits
  | .list items => areWritable items
  | .object fields => fieldsAreWritable fields
  | _ => true

/-- Whether the items of a list can be written. -/
def areWritable : List Value → Bool
  | [] => true
  | v :: rest => v.isWritable && areWritable rest

/-- Whether the fields of an object can be written. -/
def fieldsAreWritable : List (String × Value) → Bool
  | [] => true
  | (_, v) :: rest => v.isWritable && fieldsAreWritable rest

end

/-- The failure to write an integer with too many digits. -/
def tooLong : Failure where
  kind := "ValueError"
  text :=
    s!"Exceeds the limit ({mostDigits} digits) for integer string conversion" ++
      "; use sys.set_int_max_str_digits() to increase the limit"

/-- What is reported of an integer that is too long is the text of the
failure. -/
theorem message_tooLong : tooLong.message = tooLong.text := by
  have hgiven : tooLong.text.isEmpty = false := by decide +kernel
  rw [Failure.message, hgiven]
  rfl

/-- Spells a value out, which fails if an integer in it is too long. -/
def write (v : Value) : Except Failure (List Char) :=
  if v.isWritable then .ok v.spell else .error tooLong

/-- Whether a value counts as given.  Null, no, zero and what is empty do
not. -/
def isTruthy : Value → Bool
  | .null => false
  | .bool b => b
  | .int n => n != 0
  | .real x => !x.isZero
  | .string s => !s.isEmpty
  | .time _ => true
  | .list items => !items.isEmpty
  | .object fields => !fields.isEmpty

/-- An integer is written if it has at most as many digits as are allowed. -/
theorem isWritable_int (n : Int) :
    (Value.int n).isWritable = true ↔
      (natText n.natAbs).length ≤ mostDigits := by
  rw [natText, Nat.length_toDigits_le_iff (by decide) (by decide)]
  simp [isWritable]

/-- A value that can be written is spelled out. -/
@[simp] theorem write_of_isWritable {v : Value} (h : v.isWritable = true) :
    v.write = .ok v.spell := if_pos h

/-- A value that cannot be written is a failure. -/
@[simp] theorem write_of_not_isWritable {v : Value} (h : v.isWritable = false) :
    v.write = .error tooLong := by
  simp [write, h]

/-- A text is written as it is. -/
@[simp] theorem write_string (s : String) :
    (Value.string s).write = .ok s.toList := rfl

end Notices.Value
