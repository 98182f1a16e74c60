/-!
# UTF-8 and surrogates

In UTF-8 a character is one to four bytes.  The first byte tells how many
follow, and for some first bytes the second one is bounded more tightly, so that
no character has two forms and no surrogate has one.

In units of 16 bits a character above U+FFFF is a pair of surrogates, the first
one from U+D800 on and the second one from U+DC00 on.  Half of a pair is no
character.

* `utf8` gives the bytes of a text.
* `frontUtf8` reads the character that bytes begin with.  Bytes that begin with
  none have a longest part that could begin one.
* `readUtf8` gives the text of bytes; each such part becomes one replacement
  character.
* `readUtf8_utf8` says that the bytes of a text are read as that text.
-/

namespace Notices.Text

/-- The bytes of a text in UTF-8. -/
def utf8 (s : List Char) : List UInt8 := s.flatMap String.utf8EncodeChar

/-- What bytes begin with: a character or bytes that are none.  Either has a
number of bytes behind the first one. -/
inductive Front where
  | char (c : Char) (more : Nat)
  | broken (more : Nat)
  deriving DecidableEq, Repr

/-- The bytes that follow the first byte of a character: how many there are, and
the bounds of the first of them. -/
structure Tail where
  count : Nat
  low : Nat
  high : Nat
  deriving DecidableEq, Repr

/-- What follows a first byte, unless it begins no character. -/
def tailAfter? (b : Nat) : Option Tail :=
  if b < 0x80 then some ⟨0, 0x80, 0xBF⟩
  else if 0xC2 ≤ b && b ≤ 0xDF then some ⟨1, 0x80, 0xBF⟩
  else if b == 0xE0 then some ⟨2, 0xA0, 0xBF⟩
  else if b == 0xED then some ⟨2, 0x80, 0x9F⟩
  else if 0xE1 ≤ b && b ≤ 0xEF then some ⟨2, 0x80, 0xBF⟩
  else if b == 0xF0 then some ⟨3, 0x90, 0xBF⟩
  else if 0xF1 ≤ b && b ≤ 0xF3 then some ⟨3, 0x80, 0xBF⟩
  else if b == 0xF4 then some ⟨3, 0x80, 0x8F⟩
  else none

/-- The bytes that can stand behind a first byte. -/
def Tail.bytes (t : Tail) (bytes : List UInt8) : List UInt8 :=
  let inBounds (low high : Nat) (b : UInt8) : Bool :=
    low ≤ b.toNat && b.toNat ≤ high
  match t.count, bytes with
  | n + 1, b :: rest =>
    if inBounds t.low t.high b then
      b :: (rest.take n).takeWhile (inBounds 0x80 0xBF) else []
  | _, _ => []

/-- The bits of a first byte that count, when some bytes follow it. -/
def leadBits (b more : Nat) : Nat :=
  match more with
  | 0 => b
  | 1 => b % 32
  | 2 => b % 16
  | _ => b % 8

/-- What bytes begin with, of which the first one is given. -/
def frontUtf8 (b : UInt8) (rest : List UInt8) : Front :=
  match tailAfter? b.toNat with
  | none => .broken 0
  | some t =>
    let tail := t.bytes rest
    if tail.length = t.count then
      .char (Char.ofNat
        (tail.foldl (fun n b => 64 * n + b.toNat % 64)
          (leadBits b.toNat t.count))) t.count
    else .broken tail.length

/-- The text of bytes. -/
def readUtf8 : List UInt8 → List Char
  | [] => []
  | b :: rest =>
    match frontUtf8 b rest with
    | .char c more => c :: readUtf8 (rest.drop more)
    | .broken more => '\uFFFD' :: readUtf8 (rest.drop more)
termination_by bytes => bytes.length
decreasing_by all_goals simp only [List.length_cons, List.length_drop]; omega

/-! ## Surrogates -/

/-- The character of a code point; half of a surrogate pair stands for no
character and is replaced. -/
def charOf (n : Nat) : Char :=
  if n.isValidChar then Char.ofNat n else '\uFFFD'

/-- Whether a number is the first half of a surrogate pair. -/
def isHighHalf (n : Nat) : Bool := 0xD800 ≤ n && n < 0xDC00

/-- Whether a number is the second half of a surrogate pair. -/
def isLowHalf (n : Nat) : Bool := 0xDC00 ≤ n && n < 0xE000

/-- The character of a surrogate pair. -/
def pairChar (high low : Nat) : Char :=
  charOf (0x10000 + (high - 0xD800) * 0x400 + (low - 0xDC00))

/-! ## Reading what was written -/

/-- A number below 256 is that of its byte. -/
theorem toNat_ofNat_of_lt {n : Nat} (h : n < 256) :
    (UInt8.ofNat n).toNat = n := by
  simp [Nat.mod_eq_of_lt h]

/-- One byte below 0x80 is a character. -/
theorem frontUtf8_one {n : Nat} {a : UInt8} (rest : List UInt8) (h : n < 0x80)
    (ha : a.toNat = n) :
    frontUtf8 a rest = .char (Char.ofNat n) 0 := by
  simp [frontUtf8, ha, tailAfter?, h, Tail.bytes, leadBits]

/-- Two bytes are a character. -/
theorem frontUtf8_two {n : Nat} {a b : UInt8} (rest : List UInt8) (h : 0x80 ≤ n)
    (h' : n < 0x800) (ha : a.toNat = n / 64 % 32 + 0xC0)
    (hb : b.toNat = n % 64 + 0x80) :
    frontUtf8 a (b :: rest) = .char (Char.ofNat n) 1 := by
  have hlead : tailAfter? a.toNat = some ⟨1, 0x80, 0xBF⟩ := by
    grind [tailAfter?]
  have hin : 128 ≤ b.toNat ∧ b.toNat ≤ 191 := by omega
  have hn : 64 * (a.toNat % 32) + b.toNat % 64 = n := by omega
  simp [frontUtf8, hlead, Tail.bytes, leadBits, hin, hn]

/-- Three bytes are a character. -/
theorem frontUtf8_three {n : Nat} {a b c : UInt8} (rest : List UInt8)
    (h : 0x800 ≤ n) (h' : n < 0x10000) (hvalid : n < 0xD800 ∨ 0xDFFF < n)
    (ha : a.toNat = n / 4096 % 16 + 0xE0) (hb : b.toNat = n / 64 % 64 + 0x80)
    (hc : c.toNat = n % 64 + 0x80) :
    frontUtf8 a (b :: c :: rest) = .char (Char.ofNat n) 2 := by
  have hlead : tailAfter? a.toNat =
      some ⟨2, if a.toNat = 0xE0 then 0xA0
        else 0x80, if a.toNat = 0xED then 0x9F else 0xBF⟩ := by
    grind [tailAfter?]
  have hin : (if a.toNat = 0xE0 then 0xA0 else 0x80) ≤ b.toNat ∧
      b.toNat ≤ if a.toNat = 0xED then 0x9F else 0xBF := by
    constructor <;> split <;> omega
  have hin' : 128 ≤ c.toNat ∧ c.toNat ≤ 191 := by omega
  have hn : 64 * (64 * (a.toNat % 16) + b.toNat % 64) + c.toNat % 64 =
      n := by omega
  simp [frontUtf8, hlead, Tail.bytes, leadBits, hin, hin', hn]

/-- Four bytes are a character. -/
theorem frontUtf8_four {n : Nat} {a b c d : UInt8} (rest : List UInt8)
    (h : 0x10000 ≤ n) (h' : n < 0x110000) (ha : a.toNat = n / 262144 % 8 + 0xF0)
    (hb : b.toNat = n / 4096 % 64 + 0x80) (hc : c.toNat = n / 64 % 64 + 0x80)
    (hd : d.toNat = n % 64 + 0x80) :
    frontUtf8 a (b :: c :: d :: rest) = .char (Char.ofNat n) 3 := by
  have hlead : tailAfter? a.toNat =
      some ⟨3, if a.toNat = 0xF0 then 0x90
        else 0x80, if a.toNat = 0xF4 then 0x8F else 0xBF⟩ := by
    grind [tailAfter?]
  have hin : (if a.toNat = 0xF0 then 0x90 else 0x80) ≤ b.toNat ∧
      b.toNat ≤ if a.toNat = 0xF4 then 0x8F else 0xBF := by
    constructor <;> split <;> omega
  have hin' : 128 ≤ c.toNat ∧ c.toNat ≤ 191 := by omega
  have hin'' : 128 ≤ d.toNat ∧ d.toNat ≤ 191 := by omega
  have hn : 64 * (64 * (64 * (a.toNat % 8) + b.toNat % 64) + c.toNat % 64) +
      d.toNat % 64 = n := by omega
  simp [frontUtf8, hlead, Tail.bytes, leadBits, hin, hin', hin'', hn]

/-- The bytes of a character, whatever follows them, begin with the
character. -/
theorem exists_frontUtf8_eq (c : Char) (rest : List UInt8) :
    ∃ b tail, String.utf8EncodeChar c = b :: tail ∧
      frontUtf8 b (tail ++ rest) = .char c tail.length := by
  have hvalid : c.val.toNat < 0xD800 ∨
      0xDFFF < c.val.toNat ∧ c.val.toNat < 0x110000 := c.valid
  have hc : Char.ofNat c.val.toNat = c := Char.ofNat_toNat c
  unfold String.utf8EncodeChar
  generalize c.val.toNat = n at hvalid hc
  simp only
  rw [← hc]
  split
  · exact ⟨_, _, rfl, frontUtf8_one _ (by omega) (toNat_ofNat_of_lt (by omega))⟩
  · split
    · exact ⟨_, _, rfl,
        frontUtf8_two _ (by omega) (by omega) (toNat_ofNat_of_lt (by omega))
        (toNat_ofNat_of_lt (by omega))⟩
    · split
      · exact ⟨_, _, rfl, frontUtf8_three _ (by omega) (by omega) (by omega)
          (toNat_ofNat_of_lt (by omega))
          (toNat_ofNat_of_lt (by omega)) (toNat_ofNat_of_lt (by omega))⟩
      · exact ⟨_, _, rfl,
          frontUtf8_four _ (by omega) (by omega) (toNat_ofNat_of_lt (by omega))
          (toNat_ofNat_of_lt (by omega)) (toNat_ofNat_of_lt (by omega))
            (toNat_ofNat_of_lt (by omega))⟩

/-- Bytes that begin with those of a character are read as the
character and the rest. -/
theorem readUtf8_utf8EncodeChar_append (c : Char) (rest : List UInt8) :
    readUtf8 (String.utf8EncodeChar c ++ rest) = c :: readUtf8 rest := by
  obtain ⟨b, tail, hbytes, hfront⟩ := exists_frontUtf8_eq c rest
  rw [hbytes, List.cons_append, readUtf8, hfront]
  simp

/-- The bytes of a text are read as the text. -/
theorem readUtf8_utf8 (s : List Char) : readUtf8 (utf8 s) = s := by
  induction s with
  | nil => simp [utf8, readUtf8]
  | cons c rest ih =>
    rw [utf8, List.flatMap_cons, readUtf8_utf8EncodeChar_append]
    exact congrArg (c :: ·) ih

end Notices.Text
