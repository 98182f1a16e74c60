import Notices.Value.Basic

/-!
# Finite values

A number that is not finite cannot be written in a data exchange format.
`Value.isFinite` says that a value has none, and `Value.finitePart` has
null in the place of each.

* `Value.isFinite_finitePart` says that the finite part of a value is finite.
* `Value.finitePart_eq_self` says that a finite value is its own finite part.
-/

namespace Notices

mutual

/-- Whether all numbers of a value are finite. -/
def Value.isFinite : Value → Bool
  | .real (.infinite _) | .real .nan => false
  | .list items => finiteItems items
  | .object fields => finiteFields fields
  | _ => true

/-- Whether all numbers of the items of a list are finite. -/
def finiteItems : List Value → Bool
  | [] => true
  | v :: rest => v.isFinite && finiteItems rest

/-- Whether all numbers of the fields of an object are finite. -/
def finiteFields : List (String × Value) → Bool
  | [] => true
  | (_, v) :: rest => v.isFinite && finiteFields rest

end

mutual

/-- A value with null in the place of every number that is not finite. -/
def Value.finitePart : Value → Value
  | .real (.infinite _) | .real .nan => .null
  | .list items => .list (itemsFinitePart items)
  | .object fields => .object (fieldsFinitePart fields)
  | v => v

/-- The items of a list with null for what is not finite. -/
def itemsFinitePart : List Value → List Value
  | [] => []
  | v :: rest => v.finitePart :: itemsFinitePart rest

/-- The fields of an object with null for what is not finite. -/
def fieldsFinitePart : List (String × Value) → List (String × Value)
  | [] => []
  | (name, v) :: rest => (name, v.finitePart) :: fieldsFinitePart rest

end

mutual

/-- The finite part of a value is finite. -/
theorem Value.isFinite_finitePart : (v : Value) → v.finitePart.isFinite = true
  | .list items => by
    simpa [Value.finitePart, Value.isFinite] using finiteItems_finitePart items
  | .object fields => by
    simpa [Value.finitePart, Value.isFinite]
      using finiteFields_finitePart fields
  | .real x => by cases x <;> rfl
  | .null | .bool _ | .int _ | .string _ | .time _ => rfl

/-- The finite part of a list has finite items. -/
theorem finiteItems_finitePart :
    (items : List Value) → finiteItems (itemsFinitePart items) = true
  | [] => rfl
  | v :: rest => by
    simp [itemsFinitePart, finiteItems, v.isFinite_finitePart,
      finiteItems_finitePart rest]

/-- The finite part of an object has finite fields. -/
theorem finiteFields_finitePart :
    (fields : List (String × Value)) →
    finiteFields (fieldsFinitePart fields) = true
  | [] => rfl
  | (_, v) :: rest => by
    simp [fieldsFinitePart, finiteFields, v.isFinite_finitePart,
      finiteFields_finitePart rest]

end

mutual

/-- A finite value is its own finite part. -/
theorem Value.finitePart_eq_self :
    (v : Value) → v.isFinite = true → v.finitePart = v
  | .list items, h => by
    rw [Value.finitePart,
      itemsFinitePart_eq_self items (by simpa [Value.isFinite] using h)]
  | .object fields, h => by
    rw [Value.finitePart,
      fieldsFinitePart_eq_self fields (by simpa [Value.isFinite] using h)]
  | .real (.finite _ _ _), _ => rfl
  | .real (.infinite _), h | .real .nan, h => by simp [Value.isFinite] at h
  | .null, _ | .bool _, _ | .int _, _ | .string _, _ | .time _, _ => rfl

/-- A list of finite items is its own finite part. -/
theorem itemsFinitePart_eq_self :
    (items : List Value) → finiteItems items = true →
    itemsFinitePart items = items
  | [], _ => rfl
  | v :: rest, h => by
    simp only [finiteItems, Bool.and_eq_true] at h
    rw [itemsFinitePart, v.finitePart_eq_self h.1,
      itemsFinitePart_eq_self rest h.2]

/-- An object of finite fields is its own finite part. -/
theorem fieldsFinitePart_eq_self :
    (fields : List (String × Value)) → finiteFields fields = true →
    fieldsFinitePart fields = fields
  | [], _ => rfl
  | (_, v) :: rest, h => by
    simp only [finiteFields, Bool.and_eq_true] at h
    rw [fieldsFinitePart, v.finitePart_eq_self h.1,
      fieldsFinitePart_eq_self rest h.2]

end

end Notices
