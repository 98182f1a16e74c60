/-!
# Binary64 numbers

A number with a fraction is kept as sign, significand and power of two, so
that reading it from a decimal text and writing it back are exact
arithmetic on natural numbers.

* `ofQuotient` is the binary64 number nearest to a quotient of naturals;
  a tie goes to the even significand, a quotient too large for the
  format becomes infinite.
* `ofDecimal` is the number nearest to `m * 10 ^ e`.
-/

namespace Notices

/-- A binary64 number.  The finite number has the value
`±significand * 2 ^ exponent`. -/
inductive Binary64 where
  | finite (negative : Bool) (significand : Nat) (exponent : Int)
  | infinite (negative : Bool)
  | nan
  deriving DecidableEq, Repr, Inhabited

/-- The quotient of two naturals rounded to the nearest natural, a tie to the
even one. -/
def roundDiv (num den : Nat) : Nat :=
  let q := num / den
  let twice := 2 * (num % den)
  if twice < den then q else if den < twice then q + 1 else q + q % 2

/-- A quotient that is a natural number is not changed by rounding. -/
theorem roundDiv_mul {q den : Nat} (h : 0 < den) :
    roundDiv (q * den) den = q := by
  simp [roundDiv, Nat.mul_mod_left, Nat.mul_div_cancel q h, h]

namespace Binary64

/-- The least exponent of a significand, which that of zero has as well. -/
def leastExponent : Int := -1074

/-- The greatest exponent of a finite number. -/
def greatestExponent : Int := 971

/-- Two to the power 53, which every significand is less than. -/
def significandBound : Nat := 0x20000000000000

/-- A zero of either sign. -/
def ofZero (negative : Bool) : Binary64 := .finite negative 0 leastExponent

/-- Numerator and denominator of `num / den / 2 ^ e`. -/
def scaled (num den : Nat) (e : Int) : Nat × Nat :=
  (num <<< (-e).toNat, den <<< e.toNat)

/-- The exponent at which the significand of `num / den` has 53 bits,
or the least exponent. -/
def exponentOf (num den : Nat) : Int :=
  let e : Int := (num.log2 : Int) - (den.log2 : Int) - 53
  let parts := scaled num den e
  max leastExponent (if parts.1 / parts.2 < significandBound then e else e + 1)

/-- The binary64 number nearest to `num / den`. -/
def ofQuotient (negative : Bool) (num den : Nat) : Binary64 :=
  if num = 0 then ofZero negative
  else
    let e := exponentOf num den
    let parts := scaled num den e
    let m := roundDiv parts.1 parts.2
    let carried := m == significandBound
    let m := if carried then significandBound / 2 else m
    let e := if carried then e + 1 else e
    if greatestExponent < e then .infinite negative else .finite negative m e

/-- The binary64 number nearest to `m * 10 ^ e`.  Powers of ten that are out of
the range of the format whatever the digits are not computed. -/
def ofDecimal (negative : Bool) (m : Nat) (e : Int) : Binary64 :=
  if m = 0 then ofZero negative
  else if 400 < e then .infinite negative
  else if e < -(400 + (m.log2 : Int)) then ofZero negative
  else ofQuotient negative (m * Nat.pow 10 e.toNat) (Nat.pow 10 (-e).toNat)

/-- The binary64 number nearest to an integer. -/
def ofInt (n : Int) : Binary64 := ofDecimal (n < 0) n.natAbs 0

/-- Whether the number is a zero of either sign. -/
def isZero : Binary64 → Bool
  | .finite _ m _ => m == 0
  | _ => false

/-- The binary64 number nearest to the quotient of an integer and a natural
number. -/
def ofRatio (num : Int) (den : Nat) : Binary64 :=
  ofQuotient (num < 0) num.natAbs den

/-- A finite number as the quotient of an integer and a natural number. -/
def ratio? : Binary64 → Option (Int × Nat)
  | .finite negative m e =>
    let num : Int := (m <<< e.toNat : Nat)
    some (if negative then -num else num, 1 <<< (-e).toNat)
  | _ => none

/-- The integer that a finite number without fraction is. -/
def toInt? : Binary64 → Option Int
  | .finite negative m e =>
    let num := m <<< e.toNat
    let den := 1 <<< (-e).toNat
    if num % den = 0 then
      let n : Int := num / den
      some (if negative then -n else n)
    else none
  | _ => none

end Binary64

end Notices
