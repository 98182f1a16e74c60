import Mathlib.Order.Interval.Finset.Nat
import Notices.Mask

/-!
# What the mask of a number shows

A number of more than four characters, spaces apart, shows its country
code and its last two characters.  A code has up to four characters, so
that of a number of five or six characters these ends may be all there
is, and they may even meet.

* `bare`, `lastTwo`, `frontPlaces`, `endPlaces` and `hiddenPlaces` say what a
  mask is made of, and from which places.
* `countryCode_append` says that a code is read again from itself, if no digit
  follows it.
* `phone_eq_iff` says which numbers have the same mask: those with the same code
  and the same last two characters.
* `disjoint_places_iff` and `card_hiddenPlaces` say when the ends are apart, and
  how much lies between them.
* `phone_refill` changes what is hidden of a number, and
  `mask_and_length_determine_iff` says when that tells nothing.
* `a_mask_shows_the_ends_of_a_number` puts these together.
-/

namespace Notices.Mask

/-- A number without its spaces. -/
def bare (s : List Char) : List Char := s.filter (· != ' ')

/-- The last two characters of a number. -/
def lastTwo (q : List Char) : List Char := q.drop (q.length - 2)

/-- The places of a number that its mask shows in front: those of its country
code. -/
def frontPlaces (q : List Char) : Finset Nat :=
  Finset.range (countryCode q).length

/-- The places of a number that its mask shows at the end: those of
its last two characters. -/
def endPlaces (q : List Char) : Finset Nat := Finset.Ico (q.length - 2) q.length

/-- The places of a number that its mask shows nowhere. -/
def hiddenPlaces (q : List Char) : Finset Nat :=
  Finset.range q.length \ (frontPlaces q ∪ endPlaces q)

variable {p r q rest : List Char} {c : Char}

/-! ## Country codes -/

/-- A country code is a plus and one to three digits, and a number may have
none. -/
theorem countryCode_eq_nil_or (q : List Char) :
    countryCode q = [] ∨
    ∃ ds, countryCode q = '+' :: ds ∧ ds ≠ [] ∧ ds.length ≤ 3 ∧
      ∀ d ∈ ds, Text.isDecimalDigit d = true := by
  unfold countryCode
  split
  · next rest =>
    dsimp only
    split
    · exact Or.inl rfl
    · next hsome =>
      refine Or.inr ⟨_, rfl, by simpa using hsome, ?_, ?_⟩
      · have htaken :=
          (List.takeWhile_prefix (p := Text.isDecimalDigit)
            (l := rest.take 3)).length_le
        exact htaken.trans (List.length_take_le 3 rest)
      · exact List.all_eq_true.mp List.all_takeWhile
  · exact Or.inl rfl

/-- A country code stands at the front of the number. -/
theorem countryCode_begins (q : List Char) : countryCode q <+: q := by
  unfold countryCode
  split
  · next rest =>
    dsimp only
    split
    · exact List.nil_prefix
    · exact List.cons_prefix_cons.mpr
        ⟨rfl, (List.takeWhile_prefix _).trans (List.take_prefix 3 rest)⟩
  · exact List.nil_prefix

/-- A country code has four characters at most. -/
theorem length_countryCode_le (q : List Char) : (countryCode q).length ≤ 4 := by
  rcases countryCode_eq_nil_or q with hnone | ⟨ds, hcode, -, hlength, -⟩
  · simp [hnone]
  · rw [hcode, List.length_cons]
    omega

/-- The country code of a number is read again where something else than a digit
or a plus follows it. -/
theorem countryCode_append (hdigit : Text.isDecimalDigit c = false)
    (hplus : c ≠ '+') :
    countryCode (countryCode q ++ c :: rest) = countryCode q := by
  rcases countryCode_eq_nil_or q with hnone |
    ⟨ds, hcode, hsome, hlength, hdigits⟩
  · rw [hnone, List.nil_append, countryCode]
    intro others heq
    exact absurd (List.cons.inj heq).1 hplus
  · have htaken :
        ((ds ++ c :: rest).take 3).takeWhile Text.isDecimalDigit = ds := by
      rw [List.take_append, List.take_of_length_le hlength,
        List.takeWhile_append_of_pos hdigits]
      cases 3 - ds.length <;> simp [hdigit]
    rw [hcode, List.cons_append, countryCode]
    simp [htaken, hsome]

/-! ## Numbers with the same mask -/

/-- What the mask of a long number is made of. -/
theorem phone_of_long (h : 4 < (bare p).length) :
    phone p =
      (if (countryCode (bare p)).isEmpty then []
        else countryCode (bare p) ++ [' ']) ++ hiddenDigits ++
      lastTwo (bare p) := by
  have hsome : ¬ p.isEmpty = true := by
    intro hnone
    rw [List.isEmpty_iff.mp hnone] at h
    exact absurd h (by decide)
  have hlong : ¬ (p.filter (· != ' ')).length ≤ 4 := Nat.not_le.mpr h
  unfold phone
  dsimp only
  rw [if_neg hsome, if_neg hlong]
  rfl

/-- The mask of a long number is longer than one that shows nothing. -/
theorem length_hidden_lt (h : 4 < (bare p).length) :
    hidden.length < (phone p).length := by
  have hnothing : hidden.length = 4 := by decide
  have hgap : hiddenDigits.length = 7 := by decide
  rw [phone_of_long h]
  simp only [List.length_append]
  omega

/-- Nothing is shown of the numbers of at most four characters, and of no
others. -/
theorem phone_eq_hidden_iff :
    phone p = hidden ↔ p ≠ [] ∧ (bare p).length ≤ 4 := by
  constructor
  · intro hmask
    refine ⟨?_, ?_⟩
    · rintro rfl
      exact absurd hmask (by decide)
    · by_contra hlong
      have hlt := length_hidden_lt (Nat.lt_of_not_le hlong)
      rw [hmask] at hlt
      exact Nat.lt_irrefl _ hlt
  · rintro ⟨hsome, hshort⟩
    have hshort' : (p.filter (· != ' ')).length ≤ 4 := hshort
    simp [phone, hsome, hshort']

/-- A long number has the mask of those long numbers with the same country code
and the same last two characters. -/
theorem phone_eq_iff (h : 4 < (bare p).length) :
    phone r = phone p ↔
      4 < (bare r).length ∧ countryCode (bare r) = countryCode (bare p) ∧
      lastTwo (bare r) = lastTwo (bare p) := by
  constructor
  · intro hmask
    have hlong : 4 < (bare r).length := by
      by_contra hshort
      have hlt := length_hidden_lt h
      rw [← hmask] at hlt
      by_cases hnone : r = []
      · rw [hnone] at hlt
        exact absurd hlt (by decide)
      · rw [phone_eq_hidden_iff.mpr ⟨hnone, Nat.le_of_not_lt hshort⟩] at hlt
        exact Nat.lt_irrefl _ hlt
    have hends : (lastTwo (bare r)).length = (lastTwo (bare p)).length := by
      simp only [lastTwo, List.length_drop]
      omega
    rw [phone_of_long h, phone_of_long hlong] at hmask
    obtain ⟨hfront, hlast⟩ := List.append_inj' hmask hends
    refine ⟨hlong, ?_, hlast⟩
    have hcodes := List.append_cancel_right hfront
    generalize countryCode (bare r) = code at hcodes ⊢
    generalize countryCode (bare p) = other at hcodes ⊢
    cases code <;> cases other <;> simp_all
  · rintro ⟨hlong, hcode, hlast⟩
    rw [phone_of_long h, phone_of_long hlong, hcode, hlast]

/-! ## Places of a number -/

/-- The ends that a mask shows are apart exactly if there is room for both. -/
theorem disjoint_places_iff (h : 2 ≤ q.length) :
    Disjoint (frontPlaces q) (endPlaces q) ↔
      (countryCode q).length + 2 ≤ q.length := by
  rw [Finset.disjoint_left]
  simp only [frontPlaces, endPlaces, Finset.mem_range, Finset.mem_Ico]
  constructor
  · intro hapart
    by_contra hmeet
    exact hapart (a := q.length - 2) (by omega) (by omega)
  · intro hroom i hfront hend
    omega

/-- What a mask hides are the characters that are not needed for the ends. -/
theorem card_hiddenPlaces (q : List Char) :
    (hiddenPlaces q).card = q.length - ((countryCode q).length + 2) := by
  have hbetween : hiddenPlaces q =
      Finset.Ico (countryCode q).length (q.length - 2) := by
    ext i
    simp only [hiddenPlaces, frontPlaces, endPlaces, Finset.mem_sdiff,
      Finset.mem_union, Finset.mem_range, Finset.mem_Ico]
    omega
  rw [hbetween, Nat.card_Ico]
  omega

/-- A number of which nothing is hidden consists of its country code and of what
its last two characters add to it. -/
theorem eq_of_ends (h : 2 ≤ q.length)
    (hshown : q.length ≤ (countryCode q).length + 2) :
    q = countryCode q ++
      (lastTwo q).drop ((countryCode q).length + 2 - q.length) := by
  have hcode : q.take (countryCode q).length = countryCode q :=
    (List.prefix_iff_eq_take.mp (countryCode_begins q)).symm
  have hplace : q.length - 2 + ((countryCode q).length + 2 - q.length) =
      (countryCode q).length := by omega
  have hadded : (lastTwo q).drop ((countryCode q).length + 2 - q.length) =
      q.drop (countryCode q).length := by
    rw [lastTwo, List.drop_drop, hplace]
  calc
    q = q.take (countryCode q).length ++ q.drop (countryCode q).length :=
      (List.take_append_drop _ q).symm
    _ = countryCode q ++
      (lastTwo q).drop ((countryCode q).length + 2 - q.length) := by
        rw [hcode, hadded]

/-! ## What is hidden can be changed -/

/-- A number with the ends of another one, and so many marks of a kind between
them. -/
def refill (q : List Char) (k : Nat) (c : Char) : List Char :=
  countryCode q ++ List.replicate k c ++ lastTwo q

/-- The length of a refilled number. -/
theorem length_refill (h : 2 ≤ q.length) (k : Nat) (c : Char) :
    (refill q k c).length = (countryCode q).length + k + 2 := by
  simp only [refill, lastTwo, List.length_append, List.length_replicate,
    List.length_drop]
  omega

/-- There are no spaces in a number that was refilled without any. -/
theorem bare_refill (hspace : c ≠ ' ') (k : Nat) :
    bare (refill (bare p) k c) = refill (bare p) k c := by
  have hbare : ∀ d ∈ bare p, (d != ' ') = true :=
    fun d hd => (List.mem_filter.mp hd).2
  apply List.filter_eq_self.mpr
  intro d hd
  simp only [refill, List.mem_append] at hd
  rcases hd with (hcode | hmark) | hlast
  · exact hbare d ((countryCode_begins _).subset hcode)
  · rw [List.eq_of_mem_replicate hmark]
    simpa using hspace
  · exact hbare d (List.mem_of_mem_drop hlast)

/-- A number that was refilled by marks has the mask that it had before. -/
theorem phone_refill (h : 4 < (bare p).length) (hc : c = '-' ∨ c = '*')
    {k : Nat} (hsome : 0 < k) (hlong : 2 < (countryCode (bare p)).length + k) :
    phone (refill (bare p) k c) = phone p := by
  have hmark : Text.isDecimalDigit c = false ∧ c ≠ '+' ∧ c ≠ ' ' := by
    rcases hc with rfl | rfl <;> decide
  obtain ⟨hdigit, hplus, hspace⟩ := hmark
  obtain ⟨n, rfl⟩ : ∃ n, k = n + 1 := ⟨k - 1, by omega⟩
  rw [phone_eq_iff h, bare_refill hspace]
  have hlength := length_refill (q := bare p) (by omega) (n + 1) c
  refine ⟨by omega, ?_, ?_⟩
  · rw [refill, List.replicate_succ, List.append_assoc, List.cons_append]
    exact countryCode_append hdigit hplus
  · have hfront : (countryCode (bare p) ++ List.replicate (n + 1) c).length =
        (refill (bare p) (n + 1) c).length - 2 := by
      rw [hlength, List.length_append, List.length_replicate]
      omega
    rw [lastTwo, ← hfront, refill, List.drop_left]

/-- No mask tells the number, since there is another number with the same
mask. -/
theorem exists_other (hsome : p ≠ []) :
    ∃ r, phone r = phone p ∧ bare r ≠ bare p := by
  by_cases hlong : 4 < (bare p).length
  · -- as many marks as the whole number has characters make another one longer
    refine ⟨refill (bare p) (bare p).length '-',
      phone_refill hlong (Or.inl rfl) (by omega) (by omega), ?_⟩
    intro hsame
    have hlength := congrArg List.length hsame
    rw [bare_refill (by decide), length_refill (by omega)] at hlength
    omega
  · have hmask : phone p = hidden :=
      phone_eq_hidden_iff.mpr ⟨hsome, Nat.le_of_not_lt hlong⟩
    rw [hmask]
    by_cases hzero : bare p = ['0']
    · exact ⟨['1'], by decide, by rw [hzero]; decide⟩
    · exact ⟨['0'], by decide, fun hsame => hzero hsame.symm⟩

/-- A mask and the length of the number tell the number exactly if
nothing of it is hidden. -/
theorem mask_and_length_determine_iff (h : 4 < (bare p).length) :
    (∀ r, (bare r).length = (bare p).length → phone r = phone p →
      bare r = bare p) ↔
      (bare p).length ≤ (countryCode (bare p)).length + 2 := by
  constructor
  · intro hdetermined
    by_contra hroom
    obtain ⟨k, hk, hlength⟩ : ∃ k, 0 < k ∧
        (countryCode (bare p)).length + k + 2 = (bare p).length :=
      ⟨(bare p).length - ((countryCode (bare p)).length + 2), by
        omega, by omega⟩
    have hsame : ∀ c, c = '-' ∨ c = '*' → refill (bare p) k c = bare p := by
      intro c hc
      have hspace : c ≠ ' ' := by rcases hc with rfl | rfl <;> decide
      have hmask : phone (refill (bare p) k c) = phone p :=
        phone_refill h hc hk (by omega)
      have hkept := hdetermined (refill (bare p) k c)
      rw [bare_refill hspace, length_refill (by omega)] at hkept
      exact hkept hlength hmask
    have hmarks : refill (bare p) k '-' = refill (bare p) k '*' :=
      (hsame '-' (Or.inl rfl)).trans (hsame '*' (Or.inr rfl)).symm
    have hreplicas := List.append_cancel_left (List.append_cancel_right hmarks)
    rw [List.replicate_inj] at hreplicas
    exact absurd (hreplicas.2.resolve_left (by omega)) (by decide)
  · intro hshown r hlength hmask
    obtain ⟨-, hcode, hlast⟩ := (phone_eq_iff h).mp hmask
    rw [eq_of_ends (q := bare r) (by omega) (by rw [hcode]; omega), hcode,
      hlast, hlength]
    exact (eq_of_ends (by omega) hshown).symm

/-- **A mask shows the ends of a number.**  Nothing is shown of a number of at
most four characters, spaces apart, and all of these have one mask.  The mask of
a longer one shows its country code and its last two characters, and tells
nothing else, so that there is always another number with the same mask.  The
two ends are apart exactly if the number has room for both, and what is hidden
are the characters that are left over.  Since the ends have six characters at
most, that is no character at all only of numbers of five or six characters,
which are told by their mask and their length. -/
theorem a_mask_shows_the_ends_of_a_number (p : List Char) :
    (phone p = hidden ↔ p ≠ [] ∧ (bare p).length ≤ 4) ∧
    (p ≠ [] → ∃ r, phone r = phone p ∧ bare r ≠ bare p) ∧
    (4 < (bare p).length →
      let q := bare p
      let shown := (countryCode q).length + 2
      countryCode q <+: q ∧
      (∀ r, phone r = phone p ↔
        4 < (bare r).length ∧ countryCode (bare r) = countryCode q ∧
          lastTwo (bare r) = lastTwo q) ∧
      (Disjoint (frontPlaces q) (endPlaces q) ↔ shown ≤ q.length) ∧
      (hiddenPlaces q).card = q.length - shown ∧ shown ≤ 6 ∧
      ((∀ r, (bare r).length = q.length → phone r = phone p → bare r = q) ↔
        q.length ≤ shown)) := by
  refine ⟨phone_eq_hidden_iff, exists_other, ?_⟩
  intro hlong q shown
  refine ⟨countryCode_begins q, fun r => phone_eq_iff hlong, ?_, ?_, ?_, ?_⟩
  · have hroom : 2 ≤ q.length := Nat.le_trans (by decide) (Nat.le_of_lt hlong)
    exact disjoint_places_iff hroom
  · exact card_hiddenPlaces q
  · exact Nat.add_le_add_right (length_countryCode_le q) 2
  · exact mask_and_length_determine_iff hlong

/-- Of a number of twelve characters six are shown, and another number of this
length has the same mask. -/
theorem six_characters_of_a_number_are_hidden :
    let p := "+1 555 123 4567".toList
    phone p = "+155 ••• •• 67".toList ∧ p ≠ [] ∧ 4 < (bare p).length ∧
      Disjoint (frontPlaces (bare p)) (endPlaces (bare p)) ∧
      (hiddenPlaces (bare p)).card = 6 ∧
      ∃ r, (bare r).length = (bare p).length ∧ phone r = phone p ∧
        bare r ≠ bare p := by
  intro p
  have hsome : p ≠ [] := by decide
  have hlong : 4 < (bare p).length := by decide
  obtain ⟨-, -, hends⟩ := a_mask_shows_the_ends_of_a_number p
  obtain ⟨-, -, hapart, hhidden, -, htold⟩ := hends hlong
  refine ⟨by
    decide, hsome, hlong, hapart.mpr (by decide), hhidden.trans (by decide), ?_⟩
  have hnot := mt htold.mp (by decide)
  push Not at hnot
  exact hnot

/-- Behind a country code of three digits the last two characters of a number
may be all that is left, and they may even reach into the code: then the mask
shows all of the number. -/
theorem masks_that_show_everything :
    phone "+12345".toList = "+123 ••• •• 45".toList ∧
    hiddenPlaces (bare "+12345".toList) = ∅ ∧
      phone "+1234".toList = "+123 ••• •• 34".toList ∧
      hiddenPlaces (bare "+1234".toList) = ∅ ∧
      ¬ Disjoint (frontPlaces (bare "+1234".toList))
        (endPlaces (bare "+1234".toList)) := by
  decide

end Notices.Mask
