/-!
# Base64

`base64` writes bytes with an alphabet of 64 characters: three bytes become four
characters, and one or two bytes at the end are filled up with `=`.

`readBase64?` reads them again, and does so generously: what is not in the
alphabet is skipped, and the text may end without its fills.  Only a single
character at the end stands for no byte.  `readBase64?_base64` says that bytes
in base64 are read as the bytes.
-/

namespace Notices.Text

/-- The character for a number below 64. -/
def base64Char (n : Nat) : Char :=
  if n < 26 then Char.ofNat (n + 'A'.toNat)
  else if n < 52 then Char.ofNat (n - 26 + 'a'.toNat)
  else if n < 62 then Char.ofNat (n - 52 + '0'.toNat)
  else if n = 62 then '+'
  else '/'

/-- The characters for the 24 bits of three bytes. -/
def base64Group (a b c : UInt8) : List Char :=
  let n := a.toNat * 65536 + b.toNat * 256 + c.toNat
  [base64Char (n / 262144), base64Char (n / 4096 % 64),
    base64Char (n / 64 % 64), base64Char (n % 64)]

/-- Bytes in base64. -/
def base64 : List UInt8 → List Char
  | [] => []
  | [a] => (base64Group a 0 0).take 2 ++ ['=', '=']
  | [a, b] => (base64Group a b 0).take 3 ++ ['=']
  | a :: b :: c :: rest => base64Group a b c ++ base64 rest

/-- The number that an ASCII character of the alphabet, given as a byte, stands
for. -/
def base64Value? (b : UInt8) : Option Nat :=
  let n := b.toNat
  if 65 ≤ n && n ≤ 90 then some (n - 65)
  else if 97 ≤ n && n ≤ 122 then some (n - 97 + 26)
  else if 48 ≤ n && n ≤ 57 then some (n - 48 + 52)
  else if n == 43 then some 62
  else if n == 47 then some 63
  else none

/-- The numbers of a text, with the place in its group of four that the
next one has and the fills behind the last one.  The text ends where
fills complete a group. -/
def base64Values : Nat → Nat → List UInt8 → List Nat
  | _, _, [] => []
  | place, fills, b :: rest =>
    if b.toNat == 61 then
      if place < 2 then base64Values place fills rest
      else if 4 ≤ place + fills + 1 then []
      else base64Values place (fills + 1) rest
    else
      match base64Value? b with
      | some n => n :: base64Values ((place + 1) % 4) 0 rest
      | none => base64Values place fills rest

/-- The bytes of numbers below 64, four of which make three bytes. -/
def ofBase64Values? : List Nat → Option (List UInt8)
  | [] => some []
  | [_] => none
  | [a, b] => some [UInt8.ofNat (a * 4 + b / 16)]
  | [a, b, c] =>
      some [UInt8.ofNat (a * 4 + b / 16), UInt8.ofNat (b % 16 * 16 + c / 4)]
  | a :: b :: c :: d :: rest =>
    (ofBase64Values? rest).map fun bytes =>
      UInt8.ofNat (a * 4 + b / 16) :: UInt8.ofNat (b % 16 * 16 + c / 4) ::
        UInt8.ofNat (c % 4 * 64 + d) ::
        bytes

/-- The bytes of a text in base64, which is itself given in bytes. -/
def readBase64? (s : List UInt8) : Option (List UInt8) :=
  ofBase64Values? (base64Values 0 0 s)

/-! ## Reading what was written -/

/-- The byte of an ASCII character. -/
def asciiByte (c : Char) : UInt8 := UInt8.ofNat c.toNat

/-- A character of the alphabet is read as its number. -/
theorem base64Values_cons {n : Nat} (h : n < 64) (place fills : Nat)
    (s : List UInt8) :
    base64Values place fills (asciiByte (base64Char n) :: s) =
      n :: base64Values ((place + 1) % 4) 0 s := by
  have hall : ∀ n < 64, base64Value? (asciiByte (base64Char n)) = some n ∧
      (asciiByte (base64Char n)).toNat ≠ 61 := by decide
  obtain ⟨hvalue, hfill⟩ := hall n h
  simp [base64Values, hvalue, hfill]

/-- The bytes of the bits of a group are its bytes. -/
theorem ofNat_bits (a b c : UInt8) :
    let n := a.toNat * 65536 + b.toNat * 256 + c.toNat
    n / 262144 < 64 ∧ UInt8.ofNat (n / 262144 * 4 + n / 4096 % 64 / 16) = a ∧
      UInt8.ofNat (n / 4096 % 64 % 16 * 16 + n / 64 % 64 / 4) = b ∧
      UInt8.ofNat (n / 64 % 64 % 4 * 64 + n % 64) = c := by
  intro n
  have ha := a.toNat_lt
  have hb := b.toNat_lt
  have hc := c.toNat_lt
  refine ⟨by omega, ?_, ?_, ?_⟩
  · rw [show n / 262144 * 4 + n / 4096 % 64 / 16 = a.toNat by
      omega, UInt8.ofNat_toNat]
  · rw [show n / 4096 % 64 % 16 * 16 + n / 64 % 64 / 4 = b.toNat by
      omega, UInt8.ofNat_toNat]
  · rw [show n / 64 % 64 % 4 * 64 + n % 64 = c.toNat by
      omega, UInt8.ofNat_toNat]

/-- Bytes in base64 are read as the bytes. -/
theorem readBase64?_base64 (bytes : List UInt8) :
    readBase64? ((base64 bytes).map asciiByte) = some bytes := by
  have hmod (n : Nat) : n % 64 < 64 := Nat.mod_lt n (by decide)
  unfold readBase64?
  fun_induction base64 bytes with
  | case1 => rfl
  | case2 a =>
    obtain ⟨hlt, ha, -, -⟩ := ofNat_bits a 0 0
    have hfills : base64Values 2 0 [asciiByte '=', asciiByte '='] =
        [] := by decide
    simp only [base64Group, List.take_succ_cons, List.take_zero,
      List.cons_append, List.nil_append, List.map_cons, List.map_nil]
    rw [base64Values_cons hlt, base64Values_cons (hmod _), hfills,
      ofBase64Values?, ha]
  | case3 a b =>
    obtain ⟨hlt, ha, hb, -⟩ := ofNat_bits a b 0
    have hfill : base64Values 3 0 [asciiByte '='] = [] := by decide
    simp only [base64Group, List.take_succ_cons, List.take_zero,
      List.cons_append, List.nil_append, List.map_cons, List.map_nil]
    rw [base64Values_cons hlt, base64Values_cons (hmod _),
      base64Values_cons (hmod _), hfill, ofBase64Values?, ha, hb]
  | case4 a b c rest ih =>
    obtain ⟨hlt, ha, hb, hc⟩ := ofNat_bits a b c
    simp only [base64Group, List.cons_append, List.nil_append, List.map_cons]
    rw [base64Values_cons hlt, base64Values_cons (hmod _),
      base64Values_cons (hmod _), base64Values_cons (hmod _), ofBase64Values?,
      ih, ha, hb, hc]
    rfl

/-- A character of the alphabet is ASCII, and neither a fill nor a question
mark. -/
theorem base64Char_plain (n : Nat) :
    (base64Char n).toNat < 128 ∧ base64Char n ≠ '=' ∧ base64Char n ≠ '?' := by
  have hall : ∀ n < 64, (base64Char n).toNat < 128 ∧ base64Char n ≠ '=' ∧
      base64Char n ≠ '?' := by decide
  by_cases h : n < 64
  · exact hall n h
  · have hlast : base64Char n = '/' := by
      unfold base64Char
      rw [if_neg (by omega), if_neg (by omega), if_neg (by omega),
        if_neg (by omega)]
    rw [hlast]
    decide

/-- In base64 there are only characters of the alphabet and fills. -/
theorem mem_base64 {bytes : List UInt8} {c : Char} (h : c ∈ base64 bytes) :
    c = '=' ∨ ∃ n, c = base64Char n := by
  have hgroup {a b c : UInt8} {d : Char}
      (h : d ∈ base64Group a b c) : ∃ n, d = base64Char n := by
    simp only [base64Group, List.mem_cons, List.not_mem_nil, or_false] at h
    rcases h with h | h | h | h <;> exact ⟨_, h⟩
  have hfill {s : List Char} (hs : s = ['='] ∨ s = ['=', '='])
      (hc : c ∈ s) : c = '=' := by
    rcases hs with rfl | rfl <;> simpa using hc
  fun_induction base64 bytes with
  | case1 => exact (List.not_mem_nil h).elim
  | case2 a =>
    rcases List.mem_append.mp h with h | h
    · exact .inr (hgroup (List.mem_of_mem_take h))
    · exact .inl (hfill (.inr rfl) h)
  | case3 a b =>
    rcases List.mem_append.mp h with h | h
    · exact .inr (hgroup (List.mem_of_mem_take h))
    · exact .inl (hfill (.inl rfl) h)
  | case4 a b c rest ih =>
    rcases List.mem_append.mp h with h | h
    · exact .inr (hgroup h)
    · exact ih h

/-- Bytes in base64 begin with a character of the alphabet. -/
theorem exists_base64_eq_cons {bytes : List UInt8} (h : bytes ≠ []) :
    ∃ n rest, base64 bytes = base64Char n :: rest := by
  cases bytes using base64.fun_cases with
  | case1 => exact absurd rfl h
  | case2 a => exact ⟨_, _, rfl⟩
  | case3 a b => exact ⟨_, _, rfl⟩
  | case4 a b c rest => exact ⟨_, _, rfl⟩

end Notices.Text
