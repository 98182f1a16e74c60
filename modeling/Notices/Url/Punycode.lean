/-!
# Punycode

A text is written in ASCII: first its ASCII characters, then, behind a hyphen,
where the others are to be inserted.  They are inserted in the order of their
code points, and each insertion is a number: how many steps of a walk, over
all places for one code point after the other, are taken before it.  The
numbers are written with 36 digits, the least significant one first, and a
digit below a threshold ends a number.  The thresholds follow a bias, which is
set by the number before.

* `encode` writes a text, and `decode?` reads one.
-/

namespace Notices.Url.Punycode

/-! ## Numbers -/

/-- The digit for a number below 36. -/
def digitChar (n : Nat) : Char :=
  if n < 26 then Char.ofNat (n + 'a'.toNat) else Char.ofNat (n - 26 + '0'.toNat)

/-- The value of a digit. -/
def digitValue? (c : Char) : Option Nat :=
  if c.isLower then some (c.toNat - 'a'.toNat)
  else if c.isUpper then some (c.toNat - 'A'.toNat)
  else if c.isDigit then some (c.toNat - '0'.toNat + 26)
  else none

/-- The threshold at a place, which is a multiple of 36. -/
def threshold (bias place : Nat) : Nat :=
  if place ≤ bias then 1 else min 26 (place - bias)

/-- A threshold is at least 1 and at most 26. -/
theorem threshold_bounds (bias place : Nat) :
    1 ≤ threshold bias place ∧ threshold bias place ≤ 26 := by
  unfold threshold
  split <;> omega

/-- The bias that a number shrinks to: the number is divided by 35
until it is small enough. -/
def shrink (n places : Nat) : Nat :=
  if 455 < n then shrink (n / 35) (places + 36) else places + 36 * n / (n + 38)
termination_by n
decreasing_by exact Nat.div_lt_self (by omega) (by omega)

/-- The bias behind a number, which is the first one or not, in a text with
a count of characters. -/
def nextBias (n : Nat) (isFirst : Bool) (count : Nat) : Nat :=
  let n := if isFirst then n / 700 else n / 2
  shrink (n + n / count) 0

/-- The digits of a number from a place on. -/
def digits (bias place n : Nat) : List Char :=
  let t := threshold bias place
  if n < t then [digitChar n]
  else digitChar (t + (n - t) % (36 - t)) ::
    digits bias (place + 36) ((n - t) / (36 - t))
termination_by n
decreasing_by
  have hbounds := threshold_bounds bias place
  have hle :=
    Nat.div_le_self (n - threshold bias place) (36 - threshold bias place)
  omega

/-- Reads a number from a place on, whose digits count by a weight.  The rest is
what is behind the number. -/
def number? (bias : Nat) :
    Nat → Nat → Nat → List Char → Option (Nat × List Char)
  | _, _, _, [] => none
  | place, weight, n, c :: rest =>
    match digitValue? c with
    | none => none
    | some d =>
      let t := threshold bias place
      if d < t then some (n + d * weight, rest)
      else number? bias (place + 36) (weight * (36 - t)) (n + d * weight) rest

/-! ## Writing -/

/-- An ASCII character. -/
def isBasic (c : Char) : Bool := c.toNat < 128

/-- A walk over the places for insertions: the steps since the last one, the
insertions so far, and the numbers for them, the last one first. -/
structure Walk where
  steps : Nat
  inserted : Nat
  numbers : List Nat

/-- Walks past a character on the way over the places for a code point. -/
def Walk.pass (point : Nat) (w : Walk) (c : Char) : Walk :=
  if c.toNat < point then { w with steps := w.steps + 1 }
  else if c.toNat = point then ⟨0, w.inserted + 1, w.steps :: w.numbers⟩
  else w

/-- Walks over the places for code points in their order, from a code point
on. -/
def walk (s : List Char) : Nat → Walk → List Nat → Walk
  | _, w, [] => w
  | start, w, point :: rest =>
    let w := { w with steps := w.steps + (point - start) * (w.inserted + 1) }
    let w := s.foldl (Walk.pass point) w
    walk s (point + 1) { w with steps := w.steps + 1 } rest

/-- The digits of numbers with a bias, in a text with a count of characters so
far. -/
def numbersText (isFirst : Bool) (bias count : Nat) : List Nat → List Char
  | [] => []
  | n :: rest =>
    digits bias 36 n ++
      numbersText false (nextBias n isFirst (count + 1)) (count + 1) rest

/-- The bias of the first number. -/
def firstBias : Nat := 72

/-- A text in ASCII. -/
def encode (s : List Char) : List Char :=
  let basic := s.filter isBasic
  let points := ((s.filter (!isBasic ·)).map Char.toNat).mergeSort.eraseDups
  let w := walk s 128 ⟨0, basic.length, []⟩ points
  basic ++ (if basic.isEmpty then [] else ['-']) ++
    numbersText true firstBias basic.length w.numbers.reverse

/-! ## Reading -/

/-- Inserts the characters that the numbers in a text stand for, from a code
point and a place on. -/
def insertAll? (isFirst : Bool) (bias point place : Nat) (found : List Char)
    (s : List Char) :
    Option (List Char) :=
  if s.isEmpty then some found
  else
    match number? bias 36 1 0 s with
    | none => none
    | some (n, rest) =>
      let count := found.length + 1
      let point := point + (place + n) / count
      let place := (place + n) % count
      if point.isValidChar ∧ rest.length < s.length then
        insertAll? false (nextBias n isFirst count) point (place + 1)
          (found.take place ++ Char.ofNat point :: found.drop place) rest
      else none
termination_by s.length

/-- The text that a text in ASCII stands for. -/
def decode? (s : List Char) : Option (List Char) :=
  let numbers := (s.reverse.takeWhile (· != '-')).reverse
  let basic := s.take (s.length - numbers.length - 1)
  insertAll? true firstBias 128 0 basic numbers

end Notices.Url.Punycode
