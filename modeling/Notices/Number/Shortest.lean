import Notices.Number.Binary64

/-!
# The decimal text of a number

A binary64 number is written with the fewest digits that read back to it; of the
decimals with that many digits the nearest is taken.

* `Binary64.rounds m e c k` says that the decimal `c * 10 ^ k` reads back
  to the number `m * 2 ^ e`.
* `Binary64.shortest m e` tries one to seventeen digits.  On the grid of each
  length it looks at the two neighbours of the number, since if a decimal of
  that length reads back, one of them does.
* `Binary64.text` lays the digits out: positionally while the decimal exponent
  is at least -4 and less than 16, with `.0` behind a whole number, and else
  with an exponent of two digits or more.
-/

namespace Notices

/-- The decimal digits of a natural number. -/
def natText (n : Nat) : List Char := Nat.toDigits 10 n

/-- The decimal digits of an integer, behind a minus sign if it is negative. -/
def intText (n : Int) : List Char :=
  if n < 0 then '-' :: natText n.natAbs else natText n.natAbs

/-- The most digits with which an integer is read or written. -/
def mostDigits : Nat := 4300

namespace Binary64

/-- Compares `a * 10 ^ k` with `b * 2 ^ e` in exact arithmetic. -/
def compareScaled (a : Nat) (k : Int) (b : Nat) (e : Int) : Ordering :=
  compare ((a * Nat.pow 10 k.toNat) <<< (-e).toNat)
    ((b * Nat.pow 10 (-k).toNat) <<< e.toNat)

/-- Whether `c * 10 ^ k` lies in the interval of the reals that round to
`m * 2 ^ e`.  Its ends, which are halfway to the neighbouring numbers, belong to
it if the significand is even. -/
def rounds (m : Nat) (e : Int) (c : Nat) (k : Int) : Bool :=
  let low :=
    4 * m - (if m == significandBound / 2 && leastExponent < e then 1 else 2)
  let high := 4 * m + 2
  let below := compareScaled c k low (e - 2)
  let above := compareScaled c k high (e - 2)
  (below == .gt || (below == .eq && m % 2 == 0)) &&
    (above == .lt || (above == .eq && m % 2 == 0))

/-- The greatest `p` with `10 ^ p ≤ m * 2 ^ e`, from an estimate by
the binary logarithm. -/
def decimalExponent (m : Nat) (e : Int) : Int :=
  let guess := Int.fdiv (((m.log2 : Int) + e) * 30103) 100000 - 1
  let reached (p : Int) : Bool := compareScaled 1 p m e != .gt
  if reached (guess + 2) then guess + 2
    else if reached (guess + 1) then guess + 1 else guess

/-- The greatest `c` with `c * 10 ^ k ≤ m * 2 ^ e`: the lower neighbour of
the number on that grid. -/
def floorOnGrid (m : Nat) (e : Int) (k : Int) : Nat :=
  ((m * Nat.pow 10 (-k).toNat) <<< e.toNat) /
    (Nat.pow 10 k.toNat <<< (-e).toNat)

/-- Of the two neighbours on a grid that read back, the nearer one; of two
equally near, the even. -/
def onGrid? (m : Nat) (e : Int) (k : Int) : Option Nat :=
  let low := floorOnGrid m e k
  match rounds m e low k, rounds m e (low + 1) k with
  | false, false => none
  | true, false => some low
  | false, true => some (low + 1)
  | true, true =>
    match compareScaled (2 * low + 1) k (2 * m) e with
    | .gt => some low
    | .lt => some (low + 1)
    | .eq => some (if low % 2 = 0 then low else low + 1)

/-- The first length from `n` digits on, of `fuel` lengths, at which
a decimal reads back. -/
def shortestFrom (m : Nat) (e : Int) (top : Int) : Nat → Nat → Nat × Int
  | n, 0 => (floorOnGrid m e (top - n + 1), top - n + 1)
  | n, fuel + 1 =>
    match onGrid? m e (top - n + 1) with
    | some c => (c, top - n + 1)
    | none => shortestFrom m e top (n + 1) fuel

/-- The shortest decimal `(c, k)`, standing for `c * 10 ^ k`, that
reads back to `m * 2 ^ e`. -/
def shortest (m : Nat) (e : Int) : Nat × Int :=
  shortestFrom m e (decimalExponent m e) 1 17

/-- Removes the zeros at the end of a run of digits, one for each power
of ten that `k` gains. -/
def dropZeros (digits : List Char) : List Char :=
  (digits.reverse.dropWhile (· == '0')).reverse

/-- An exponent with its sign and at least two digits. -/
def exponentText (p : Int) : List Char :=
  let digits := natText p.natAbs
  (if p < 0 then '-' else '+') ::
    (if digits.length < 2 then '0' :: digits else digits)

/-- Lays out digits that stand for `0.d₁d₂… * 10 ^ point`. -/
def layout (digits : List Char) (point : Int) : List Char :=
  if -4 < point && point ≤ 16 then
    if point ≤ 0 then "0.".toList ++ List.replicate (-point).toNat '0' ++ digits
    else if point < digits.length then
      digits.take point.toNat ++ '.' :: digits.drop point.toNat
    else digits ++ List.replicate (point.toNat - digits.length) '0' ++
      ".0".toList
  else
    let fraction := digits.drop 1
    digits.take 1 ++ (if fraction.isEmpty then [] else '.' :: fraction) ++
      'e' :: exponentText (point - 1)

/-- The text of a number: the fewest digits that read back to it. -/
def text : Binary64 → List Char
  | .finite negative m e =>
    let sign := if negative then ['-'] else []
    if m = 0 then sign ++ "0.0".toList
    else
      let best := shortest m e
      let digits := natText best.1
      sign ++ layout (dropZeros digits) (digits.length + best.2)
  | .infinite negative => if negative then "-inf".toList else "inf".toList
  | .nan => "nan".toList

end Binary64

end Notices
