import Mathlib.Algebra.Group.Nat.Defs
import Mathlib.Data.List.TakeWhile
import Notices.Json.Reader

/-!
# Whole numbers as binary64 numbers

A whole number of 53 binary digits at most is a binary64 number, in which
nothing is lost.  Its decimal text shows its own digits, but a point and
a zero stand behind them.

* `Binary64.ofDecimal_mul` says that it does not matter how many zeros a
  whole number is written with.
* `Binary64.rounds_whole` says that a decimal without fraction reads back to a
  whole number only if it is that number.
* `Binary64.text_ofInt` says how a whole number is written.
* `Json.spells_int` and `Json.spells_real` say which texts in JSON are read as a
  whole number of either kind.
-/

namespace Notices

/-! ## Digits and zeros -/

/-- Ten times a number has a zero behind its digits. -/
theorem natText_mul_ten {n : Nat} (h : 0 < n) :
    natText (n * 10) = natText n ++ ['0'] := by
  have happend :=
    Nat.toDigits_append_toDigits (b := 10) (d := 0) (by decide) h (by decide)
  rw [Nat.mul_comm]
  exact happend.symm

/-- A number times a power of ten has as many zeros behind its digits. -/
theorem natText_mul_pow {n : Nat} (h : 0 < n) (k : Nat) :
    natText (n * 10 ^ k) = natText n ++ List.replicate k '0' := by
  induction k with
  | zero => simp
  | succ k ih =>
      have hpos : 0 < n * 10 ^ k := Nat.mul_pos h (Nat.pow_pos (by decide))
      rw [Nat.pow_succ, ← Nat.mul_assoc, natText_mul_ten hpos, ih,
        List.append_assoc, List.replicate_succ']

/-- The digits of a number are ASCII digits. -/
theorem isDigit_of_mem_natText {n : Nat} {c : Char} (h : c ∈ natText n) :
    c.isDigit = true :=
  Nat.isDigit_of_mem_toDigits (by decide) (by decide) h

/-- The digits of a number that is not zero do not begin with zero. -/
theorem natText_eq_cons {n : Nat} (hpos : 0 < n) :
    ∃ c ds, natText n = c :: ds ∧ c ≠ '0' := by
  induction n using Nat.strongRecOn with
  | ind n ih =>
      by_cases hsmall : n < 10
      · have hdigit : ∀ m < 10, 0 < m → m.digitChar ≠ '0' := by decide
        exact ⟨_, _, Nat.toDigits_of_lt_base hsmall, hdigit n hsmall hpos⟩
      · obtain ⟨c, ds, htens, hc⟩ := ih (n / 10) (by omega) (by omega)
        refine ⟨c, ds ++ [(n % 10).digitChar], ?_, hc⟩
        rw [natText, Nat.toDigits_of_base_le (by decide) (by omega)]
        exact congrArg (· ++ [(n % 10).digitChar]) htens

/-- The digits of a number have its value. -/
theorem Numeral.value_natText (n : Nat) : Numeral.value (natText n) = n := by
  have hvalue := Nat.ofDigitChars_ten_toDigits (n := n)
  rw [Nat.ofDigitChars_eq_foldl] at hvalue
  exact hvalue

namespace Binary64

/-- Only zeros are removed from the end of a run of digits. -/
theorem dropZeros_append_zeros (digits : List Char) :
    dropZeros digits ++
      List.replicate (digits.length - (dropZeros digits).length) '0' =
        digits := by
  have hzeros : digits.reverse.takeWhile (· == '0') =
      List.replicate (digits.reverse.takeWhile (· == '0')).length '0' :=
    List.eq_replicate_of_mem fun c hc =>
      eq_of_beq (List.mem_takeWhile_imp (p := (· == '0')) hc)
  have hsplit : digits = dropZeros digits ++
      (digits.reverse.takeWhile (· == '0')).reverse := by
    rw [dropZeros, ← List.reverse_append, List.takeWhile_append_dropWhile,
      List.reverse_reverse]
  have hlength : digits.length - (dropZeros digits).length =
      (digits.reverse.takeWhile (· == '0')).length := by
    have hcount := congrArg List.length hsplit
    rw [List.length_append, List.length_reverse] at hcount
    omega
  rw [hlength, ← List.reverse_replicate, ← hzeros]
  exact hsplit.symm

/-! ## The binary64 number of a whole number -/

/-- How many places the binary digits of a whole number are moved up
to make a significand. -/
def spare (n : Nat) : Nat := 52 - n.log2

variable {n : Nat}

/-- A whole number that is moved up is a significand. -/
theorem significand_bounds (hpos : 0 < n) (h : n < significandBound) :
    2 ^ 52 ≤ n * 2 ^ spare n ∧ n * 2 ^ spare n < significandBound := by
  have hne : n ≠ 0 := Nat.ne_of_gt hpos
  have hlog : n.log2 < 53 := (Nat.log2_lt hne).mpr h
  have hpow : 0 < 2 ^ spare n := Nat.two_pow_pos _
  have hlength : n.log2 + spare n = 52 := by
    rw [spare]
    omega
  constructor
  · calc 2 ^ 52 = 2 ^ n.log2 * 2 ^ spare n := by rw [← Nat.pow_add, hlength]
      _ ≤ n * 2 ^ spare n := Nat.mul_le_mul_right _ (Nat.log2_self_le hne)
  · calc n * 2 ^ spare n < 2 ^ (n.log2 + 1) * 2 ^ spare n :=
           Nat.mul_lt_mul_of_pos_right Nat.lt_log2_self hpow
      _ = 2 ^ 53 := by rw [← Nat.pow_add, Nat.add_right_comm, hlength]

/-- A quotient is moved up by moving up its numerator. -/
theorem scaled_neg (num den k : Nat) :
    scaled num den (-(k : Int)) = (num * 2 ^ k, den) := by
  simp [scaled, Nat.shiftLeft_eq]

/-- A quotient that is a whole number has the exponent of the whole number. -/
theorem exponentOf_mul {den : Nat} (hden : 0 < den) (hpos : 0 < n)
    (h : n < significandBound) :
    exponentOf (n * den) den = -(spare n : Int) := by
  have hne : n ≠ 0 := Nat.ne_of_gt hpos
  have hlog : n.log2 < 53 := (Nat.log2_lt hne).mpr h
  obtain ⟨hlow, hhigh⟩ := significand_bounds hpos h
  have hleast : leastExponent = -1074 := rfl
  -- The logarithm of a product is the sum of the logarithms or one more.
  have hsum : (n * den).log2 = n.log2 + den.log2 ∨
      (n * den).log2 = n.log2 + den.log2 + 1 := by
    have hprod : n * den ≠ 0 := Nat.ne_of_gt (Nat.mul_pos hpos hden)
    have hatLeast : n.log2 + den.log2 ≤ (n * den).log2 := by
      rw [Nat.le_log2 hprod, Nat.pow_add]
      exact Nat.mul_le_mul (Nat.log2_self_le hne)
        (Nat.log2_self_le (Nat.ne_of_gt hden))
    have hatMost : (n * den).log2 < n.log2 + 1 + (den.log2 + 1) := by
      rw [Nat.log2_lt hprod, Nat.pow_add]
      exact Nat.mul_lt_mul'' Nat.lt_log2_self Nat.lt_log2_self
    omega
  have hquotient (k : Nat) : n * den * 2 ^ k / den = n * 2 ^ k := by
    rw [Nat.mul_right_comm, Nat.mul_div_cancel _ hden]
  unfold exponentOf
  rcases hsum with hlog2 | hlog2
  · have hexponent : ((n * den).log2 : Int) - den.log2 - 53 =
        -((spare n + 1 : Nat) : Int) := by
      rw [hlog2, spare]
      omega
    have hlarge : ¬ n * 2 ^ (spare n + 1) < significandBound := by
      rw [Nat.pow_succ, ← Nat.mul_assoc]
      have hbound : significandBound = 2 ^ 52 * 2 := rfl
      omega
    simp only [hexponent, scaled_neg, hquotient, if_neg hlarge, hleast]
    have hspare : spare n ≤ 52 := Nat.sub_le _ _
    omega
  · have hexponent : ((n * den).log2 : Int) - den.log2 - 53 =
        -(spare n : Int) := by
      rw [hlog2, spare]
      omega
    simp only [hexponent, scaled_neg, hquotient, if_pos hhigh, hleast]
    have hspare : spare n ≤ 52 := Nat.sub_le _ _
    omega

/-- A quotient that is a whole number is its binary64 number. -/
theorem ofQuotient_mul (negative : Bool) {den : Nat} (hden : 0 < den)
    (hpos : 0 < n) (h : n < significandBound) :
    ofQuotient negative (n * den) den = .finite negative (n * 2 ^ spare n)
      (-(spare n : Int)) := by
  have hprod : n * den ≠ 0 := Nat.ne_of_gt (Nat.mul_pos hpos hden)
  have hhigh := (significand_bounds hpos h).2
  have hkept : (n * 2 ^ spare n == significandBound) = false :=
    beq_eq_false_iff_ne.mpr (Nat.ne_of_lt hhigh)
  have hgreatest : ¬ greatestExponent < -(spare n : Int) := by
    have hgreatest : greatestExponent = 971 := rfl
    omega
  unfold ofQuotient
  simp only [if_neg hprod, exponentOf_mul hden hpos h, scaled_neg,
    Nat.mul_right_comm n den, roundDiv_mul hden, hkept, if_neg hgreatest,
    Bool.false_eq_true, if_false]

/-- It does not matter with how many zeros behind the point a whole number is
written. -/
theorem ofDecimal_mul (negative : Bool) (hpos : 0 < n)
    (h : n < significandBound) {k : Nat} (hk : k ≤ 400) :
    ofDecimal negative (n * 10 ^ k)
      (-(k : Int)) = .finite negative (n * 2 ^ spare n) (-(spare n : Int)) := by
  have hpow : 0 < 10 ^ k := Nat.pow_pos (by decide)
  have hne : n * 10 ^ k ≠ 0 := Nat.ne_of_gt (Nat.mul_pos hpos hpow)
  have hquotient := ofQuotient_mul negative hpow hpos h
  unfold ofDecimal
  rw [if_neg hne, if_neg (by omega), if_neg (by omega)]
  simpa using hquotient

/-- The binary64 number of a whole number. -/
theorem ofInt_natCast (hpos : 0 < n) (h : n < significandBound) :
    ofInt n = .finite false (n * 2 ^ spare n) (-(spare n : Int)) := by
  have hdecimal := ofDecimal_mul false hpos h (Nat.zero_le 400)
  have hsign : decide ((n : Int) < 0) = false := decide_eq_false (by omega)
  unfold ofInt
  rw [hsign, Int.natAbs_natCast]
  simpa using hdecimal

/-- The binary64 number of a whole number is that whole number. -/
theorem toInt?_ofInt (hpos : 0 < n) (h : n < significandBound) :
    (ofInt n).toInt? = some (n : Int) := by
  have hpow : (2 : Int) ^ spare n ≠ 0 := Int.ne_of_gt (Int.pow_pos (by decide))
  rw [ofInt_natCast hpos h]
  simp [toInt?, Nat.shiftLeft_eq, Int.mul_ediv_cancel _ hpow]

/-- The binary64 number of a whole number that is not zero is not zero. -/
theorem isZero_ofInt (hpos : 0 < n) (h : n < significandBound) :
    (ofInt n).isZero = false := by
  rw [ofInt_natCast hpos h]
  exact beq_false_of_ne (Nat.ne_of_gt (Nat.mul_pos hpos (Nat.two_pow_pos _)))

/-! ## The text of a whole number -/

/-- A decimal without fraction is compared with a binary number by moving it
up. -/
theorem compareScaled_neg (a k b t : Nat) :
    compareScaled a (k : Int) b (-(t : Int)) =
      compare (a * 10 ^ k * 2 ^ t) b := by
  simp [compareScaled, Nat.shiftLeft_eq]

/-- Two multiples of a unit are at least that unit apart. -/
theorem mul_apart {a b : Nat} (h : a ≠ b) (unit : Nat) :
    a * unit + unit ≤ b * unit ∨ b * unit + unit ≤ a * unit := by
  rw [← Nat.succ_mul, ← Nat.succ_mul]
  exact (Nat.lt_or_gt_of_ne h).imp (Nat.mul_le_mul_right unit)
    (Nat.mul_le_mul_right unit)

/-- A decimal without fraction reads back to a whole number only if it is
that number: two whole numbers are farther apart than the numbers that are
rounded to one of them. -/
theorem rounds_whole (hpos : 0 < n) (c k : Nat) :
    rounds (n * 2 ^ spare n) (-(spare n : Int)) c (k : Int) = true ↔
      c * 10 ^ k = n := by
  have hexponent : -(spare n : Int) - 2 =
      -((spare n + 2 : Nat) : Int) := by omega
  have hunit : 2 ^ (spare n + 2) = 4 * 2 ^ spare n := by
    rw [Nat.pow_add, Nat.mul_comm]
  have hpow : 0 < 2 ^ spare n := Nat.two_pow_pos _
  unfold rounds
  simp only [hexponent, compareScaled_neg, hunit]
  generalize 2 ^ spare n = unit at hpow
  generalize c * 10 ^ k = d
  -- The ends of the interval are two away at most, and a unit counts four or
  -- more.
  have hmove : 4 * (n * unit) = n * (4 * unit) := Nat.mul_left_comm ..
  have hm : 0 < n * (4 * unit) := Nat.mul_pos hpos (by omega)
  rw [hmove]
  simp only [Bool.and_eq_true, Bool.or_eq_true, beq_iff_eq, Nat.compare_eq_gt,
    Nat.compare_eq_eq, Nat.compare_eq_lt]
  constructor
  · intro h
    by_contra hne
    have hfar := mul_apart hne (4 * unit)
    split at h <;> omega
  · rintro rfl
    split <;> omega

/-- The neighbour of a whole number from below, on the grid of a power of
ten. -/
theorem floorOnGrid_whole (n k : Nat) :
    floorOnGrid (n * 2 ^ spare n) (-(spare n : Int))
      (k : Int) = n / 10 ^ k := by
  simp [floorOnGrid, Nat.shiftLeft_eq,
    Nat.mul_div_mul_right _ _ (Nat.two_pow_pos (spare n))]

/-- On the grid of a power of ten, a whole number is found if it is a
multiple of that power. -/
theorem onGrid?_whole (hpos : 0 < n) (k : Nat) :
    onGrid? (n * 2 ^ spare n) (-(spare n : Int)) (k : Int) =
      if 10 ^ k ∣ n then some (n / 10 ^ k) else none := by
  have hpow : 0 < 10 ^ k := Nat.pow_pos (by decide)
  have hup : rounds (n * 2 ^ spare n) (-(spare n : Int)) (n / 10 ^ k + 1)
      (k : Int) = false := by
    rw [Bool.eq_false_iff, Ne, rounds_whole hpos]
    exact Nat.ne_of_gt (Nat.lt_mul_of_div_lt (Nat.lt_succ_self _) hpow)
  unfold onGrid?
  simp only [floorOnGrid_whole, hup]
  by_cases hdvd : 10 ^ k ∣ n
  · have hdown :=
      (rounds_whole hpos (n / 10 ^ k) k).mpr (Nat.div_mul_cancel hdvd)
    simp only [hdown, if_pos hdvd]
  · have hdown : rounds (n * 2 ^ spare n) (-(spare n : Int)) (n / 10 ^ k)
        (k : Int) = false := by
      rw [Bool.eq_false_iff, Ne, rounds_whole hpos]
      exact fun hmul => hdvd ⟨n / 10 ^ k, by rw [Nat.mul_comm]; exact hmul.symm⟩
    simp only [hdown, if_neg hdvd]

/-- The search from some number of digits on ends at a decimal without fraction
that is the whole number.  It ends at the grid of one at the latest. -/
theorem shortestFrom_whole (hpos : 0 < n) {top : Nat} (fuel : Nat) :
    ∀ j, j ≤ top + 1 → top + 2 ≤ j + fuel → ∃ c k : Nat,
      shortestFrom (n * 2 ^ spare n)
        (-(spare n : Int)) top j fuel = (c, (k : Int)) ∧ c * 10 ^ k = n := by
  induction fuel with
  | zero =>
      intro j hj hfuel
      omega
  | succ fuel ih =>
      intro j hj hfuel
      have hgrid : (top : Int) - j + 1 = ((top + 1 - j : Nat) : Int) := by omega
      unfold shortestFrom
      simp only [hgrid, onGrid?_whole hpos]
      by_cases hdvd : 10 ^ (top + 1 - j) ∣ n
      · simp only [if_pos hdvd]
        exact ⟨_, _, rfl, Nat.div_mul_cancel hdvd⟩
      · simp only [if_neg hdvd]
        have hstep : j ≠ top + 1 := by
          rintro rfl
          exact hdvd (by simp)
        exact ih (j + 1) (by omega) (by omega)

/-- The estimate of the decimal exponent of a whole number is one of the
exponents from which the search gets down to zero. -/
theorem decimalExponent_whole (hpos : 0 < n) (h : n < significandBound) :
    ∃ top : Nat, top ≤ 16 ∧ decimalExponent (n * 2 ^ spare n)
      (-(spare n : Int)) = top := by
  have hne : n ≠ 0 := Nat.ne_of_gt hpos
  have hlog : n.log2 < 53 := (Nat.log2_lt hne).mpr h
  obtain ⟨hlow, hhigh⟩ := significand_bounds hpos h
  have hsignificand : (n * 2 ^ spare n).log2 = 52 := by
    rw [Nat.log2_eq_iff (by omega)]
    exact ⟨hlow, hhigh⟩
  have hsum : ((52 : Nat) : Int) + -(spare n : Int) = n.log2 := by
    rw [spare]
    omega
  -- One is reached by every whole number, so a guess that is too small by one
  -- is corrected to zero at least.
  have hone : compareScaled 1 0 (n * 2 ^ spare n) (-(spare n : Int)) ≠ .gt := by
    have hcompare := compareScaled_neg 1 0 (n * 2 ^ spare n) (spare n)
    rw [Int.natCast_zero] at hcompare
    rw [hcompare, Ne, Nat.compare_eq_gt]
    have hle : 1 * 2 ^ spare n ≤ n * 2 ^ spare n := Nat.mul_le_mul_right _ hpos
    omega
  have hguess : Int.fdiv ((n.log2 : Int) * 30103) 100000 =
      (n.log2 * 30103 / 100000 : Nat) := by
    rw [Int.fdiv_eq_ediv_of_nonneg _ (by decide)]
    omega
  unfold decimalExponent
  simp only [hsignificand, hsum, hguess]
  generalize hg : n.log2 * 30103 / 100000 = g
  have hsmall : g ≤ 15 := by omega
  split
  · exact ⟨g + 1, by omega, by omega⟩
  · split
    · exact ⟨g, by omega, by omega⟩
    · next hnot =>
      have hnonzero : g ≠ 0 := by
        rintro rfl
        exact hnot (by simpa using hone)
      exact ⟨g - 1, by omega, by omega⟩

/-- The shortest decimal of a whole number is that number, perhaps
without zeros at its end. -/
theorem shortest_whole (hpos : 0 < n) (h : n < significandBound) :
    ∃ c k : Nat, shortest (n * 2 ^ spare n)
      (-(spare n : Int)) = (c, (k : Int)) ∧ c * 10 ^ k = n := by
  obtain ⟨top, hsmall, htop⟩ := decimalExponent_whole hpos h
  rw [shortest, htop]
  exact shortestFrom_whole hpos 17 1 (by omega) (by omega)

/-- Digits with their zeros are laid out as a whole number, with a point
and a zero behind them. -/
theorem layout_dropZeros {digits : List Char} {k : Nat} (hne : digits ≠ [])
    (h : digits.length + k ≤ 16) :
    layout (dropZeros digits) (digits.length + k) = digits ++
      List.replicate k '0' ++ ".0".toList := by
  have hzeros := dropZeros_append_zeros digits
  have hpos : 0 < digits.length := List.length_pos_iff.mpr hne
  generalize dropZeros digits = front at hzeros
  have hfront : front.length ≤ digits.length := by
    rw [← hzeros, List.length_append]
    omega
  have hpoint : ((digits.length : Int) + k).toNat - front.length =
      digits.length - front.length + k := by omega
  unfold layout
  rw [if_pos (by simp; omega), if_neg (by omega), if_neg (by omega), hpoint,
    ← List.replicate_append_replicate,
    ← List.append_assoc, hzeros]

/-- **The text of a whole number.**  A whole number of 53 binary digits at most
is written with its own decimal digits, and a point and a zero behind them. -/
theorem text_ofInt (hpos : 0 < n) (h : n < significandBound) :
    (ofInt n).text = natText n ++ ".0".toList := by
  obtain ⟨c, k, hshortest, hvalue⟩ := shortest_whole hpos h
  have hc : 0 < c := Nat.pos_of_mul_pos_right (by rw [hvalue]; exact hpos)
  have hdigits : natText n = natText c ++ List.replicate k '0' := by
    rw [← hvalue, natText_mul_pow hc]
  have hlength : (natText c).length + k ≤ 16 := by
    have hall : (natText n).length ≤ 16 := by
      rw [natText, Nat.length_toDigits_le_iff (by decide) (by decide)]
      exact Nat.lt_trans h (by decide)
    simpa [hdigits] using hall
  have hsignificand : n * 2 ^ spare n ≠ 0 := by
    have := (significand_bounds hpos h).1
    omega
  rw [ofInt_natCast hpos h, hdigits]
  simp only [text, if_neg hsignificand, hshortest, Bool.false_eq_true, if_false,
    List.nil_append]
  exact layout_dropZeros Nat.toDigits_ne_nil hlength

end Binary64

/-! ## Whole numbers in JSON -/

namespace Json

/-- A number ends before a text that no digit, point or exponent begins. -/
def EndsNumber (rest : List Char) : Prop :=
  ∀ c ∈ rest.head?, c.isDigit = false ∧ c ≠ '.' ∧ c ≠ 'e' ∧ c ≠ 'E'

/-- A text spells a value if it is read as that value wherever it stands, for
all that a number ends behind it. -/
def Spells (text : List Char) (v : Value) : Prop :=
  ∀ level depth rest, EndsNumber rest →
    readValue level (depth + 1) (text ++ rest) = .ok (v, rest)

variable {n : Nat} {rest : List Char}

/-- A value that begins with a digit is a number. -/
theorem readValue_of_isDigit {c : Char} (h : c.isDigit = true)
    (level depth : Nat) (s : List Char) :
    readValue level (depth + 1) (c :: s) = readNumber (c :: s) := by
  unfold readValue
  split <;> first | rfl | simp_all

/-- Behind the digits of a number that is not zero, a number goes on with its
fraction and its exponent. -/
theorem readValue_natText (hpos : 0 < n)
    (hrest : ∀ c ∈ rest.head?, c.isDigit = false) (level depth : Nat) :
    readValue level (depth + 1) (natText n ++ rest) =
      let fraction := fractionDigits rest
      let after := (fraction.map Prod.snd).getD rest
      let exponent := exponentValue after
      let after := (exponent.map Prod.snd).getD after
      let decimals := (fraction.map Prod.fst).getD []
      if fraction.isNone && exponent.isNone then
        if mostDigits < (natText n).length then
          .error (.tooManyDigits (natText n).length) else .ok (.int n, after)
      else
        let e := (exponent.map Prod.fst).getD 0 - decimals.length
        .ok (.real
          (Binary64.ofDecimal false (Numeral.value (natText n ++ decimals)) e),
          after) := by
  obtain ⟨c, ds, htext, hc⟩ := natText_eq_cons hpos
  have hdigits : ∀ d ∈ natText n, d.isDigit = true :=
    fun d hd => isDigit_of_mem_natText hd
  have hdigit : c.isDigit = true :=
    hdigits c (by rw [htext]; exact List.mem_cons_self)
  have hstop : rest.takeWhile Char.isDigit = [] := by
    cases rest with
    | nil => rfl
    | cons d rest => simp [hrest d rfl]
  have hwhole : wholeDigits (natText n ++ rest) = natText n := by
    have hrun : wholeDigits (natText n ++ rest) =
        (natText n ++ rest).takeWhile Char.isDigit := by
      rw [htext]
      unfold wholeDigits
      split
      · next heq => exact absurd (List.cons.inj heq).1 hc
      · rfl
    rw [hrun, List.takeWhile_append_of_pos hdigits, hstop, List.append_nil]
  have hsign : ((natText n ++ rest).head? == some '-') = false := by
    rw [htext, beq_eq_false_iff_ne]
    rintro heq
    obtain rfl := Option.some.inj heq
    cases hdigit
  have hsome : (natText n).isEmpty = false := by rw [htext]; rfl
  have hread : readValue level (depth + 1) (natText n ++ rest) =
      readNumber (natText n ++ rest) := by
    rw [htext]
    exact readValue_of_isDigit hdigit level depth _
  rw [hread]
  simp only [readNumber, hsign, Bool.false_eq_true, if_false, hwhole, hsome,
    List.drop_left, Numeral.value_natText]

/-- Behind a number that ends there is no exponent. -/
theorem EndsNumber.exponentValue (h : EndsNumber rest) :
    exponentValue rest = none := by
  cases rest with
  | nil => rfl
  | cons c rest => simp [Json.exponentValue, (h c rfl).2.2]

/-- Behind a number that ends there is no fraction. -/
theorem EndsNumber.fractionDigits (h : EndsNumber rest) :
    fractionDigits rest = none := by
  cases rest with
  | nil => rfl
  | cons c rest =>
      unfold Json.fractionDigits
      split
      · next heq => exact absurd (List.cons.inj heq).1 (h c rfl).2.1
      · rfl

/-- The digits of a whole number alone are read as an integer. -/
theorem spells_int (hpos : 0 < n) (h : (natText n).length ≤ mostDigits) :
    Spells (natText n) (.int n) := by
  intro level depth rest hrest
  rw [readValue_natText hpos fun c hc => (hrest c hc).1]
  simp [hrest.fractionDigits, hrest.exponentValue, Nat.not_lt.mpr h]

/-- The text of a whole number as binary64 number is read as that binary64
number. -/
theorem spells_real (hpos : 0 < n) (h : n < Binary64.significandBound) :
    Spells (Binary64.ofInt n).text (.real (Binary64.ofInt n)) := by
  intro level depth rest hrest
  have hfraction : fractionDigits ('.' :: '0' :: rest) =
      some (['0'], rest) := by
    cases rest with
    | nil => rfl
    | cons c rest => simp [fractionDigits, (hrest c rfl).1]
  have hvalue : Numeral.value (natText n ++ ['0']) = n * 10 := by
    rw [← natText_mul_ten hpos, Numeral.value_natText]
  have hread : Binary64.ofDecimal false (n * 10) (-1) = Binary64.ofInt n :=
    (Binary64.ofDecimal_mul false hpos h (k := 1) (by decide)).trans
      (Binary64.ofInt_natCast hpos h).symm
  have hpoint : ∀ c ∈ ('.' :: '0' :: rest).head?, c.isDigit = false := by simp
  rw [Binary64.text_ofInt hpos h, List.append_assoc]
  show readValue level (depth + 1) (natText n ++ '.' :: '0' :: rest) = _
  rw [readValue_natText hpos hpoint]
  simp [hfraction, hrest.exponentValue, hvalue, hread]

end Json

end Notices
