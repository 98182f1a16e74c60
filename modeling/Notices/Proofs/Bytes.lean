import Notices.Proofs.Halves

/-!
# Characters that come of bytes

The bytes of a header that stand for no character are read again when the
header is set, and several of them may come together to one.  Nothing else
comes of them: a character of the text was there before, or its bytes were,
one behind the other.

* `Text.utf8EncodeChar_of_frontUtf8` says that a character that bytes begin
  with has those bytes, and `Text.infix_of_mem_readUtf8` that the characters
  of bytes are among them.
* `mem_toText` says where the characters of a text come from.
-/

namespace Notices

namespace Text

/-! ## Reading UTF-8 -/

/-- The code point of the character with a number is the number. -/
theorem toNat_val_ofNat {n : Nat} (h : n.isValidChar) :
    (Char.ofNat n).val.toNat = n := by
  unfold Char.ofNat
  rw [dif_pos h]
  rfl

/-- The bytes behind a first byte are within their bounds. -/
theorem exists_of_length_bytes {t : Tail} {n : Nat} {rest : List UInt8}
    (hcount : t.count = n + 1) (h : (t.bytes rest).length = n + 1) :
    ∃ b more left, rest = b :: more ++ left ∧ t.bytes rest = b :: more ∧
      more.length = n ∧ (t.low ≤ b.toNat ∧ b.toNat ≤ t.high) ∧
      ∀ d ∈ more, 0x80 ≤ d.toNat ∧ d.toNat ≤ 0xBF := by
  unfold Tail.bytes at h ⊢
  rw [hcount] at h ⊢
  cases rest with
  | nil => cases h
  | cons b rest =>
      dsimp only at h ⊢
      by_cases hb : t.low ≤ b.toNat ∧ b.toNat ≤ t.high
      · rw [if_pos (by simpa using hb)] at h ⊢
        generalize hmore : (rest.take n).takeWhile
          (fun d => decide (0x80 ≤ d.toNat) && decide (d.toNat ≤ 0xBF)) =
            more at h ⊢
        have hlength : more.length = n := by simpa using h
        have hfront : more <+: rest.take n := hmore ▸ List.takeWhile_prefix _
        have hwhole : more = rest.take n :=
          hfront.eq_of_length_le (hlength ▸ List.length_take_le n rest)
        refine ⟨b, more, rest.drop n, by simp [hwhole], rfl, hlength, hb, ?_⟩
        intro d hd
        rw [← hmore] at hd
        simpa using List.mem_takeWhile_imp hd
      · rw [if_neg (by simpa using hb)] at h
        cases h

/-- What may follow a first byte. -/
theorem tailAfter?_cases {b : Nat} {t : Tail} (h : tailAfter? b = some t) :
    (t.count = 0 ∧ b < 0x80) ∨
    (t.count = 1 ∧ 0xC2 ≤ b ∧ b ≤ 0xDF ∧ 0x80 ≤ t.low ∧ t.high ≤ 0xBF) ∨
    (t.count = 2 ∧ 0xE0 ≤ b ∧ b ≤ 0xEF ∧ 0x80 ≤ t.low ∧ t.high ≤ 0xBF ∧
      (b = 0xE0 → 0xA0 ≤ t.low) ∧ (b = 0xED → t.high ≤ 0x9F)) ∨
    (t.count = 3 ∧ 0xF0 ≤ b ∧ b ≤ 0xF4 ∧ 0x80 ≤ t.low ∧ t.high ≤ 0xBF ∧
      (b = 0xF0 → 0x90 ≤ t.low) ∧ (b = 0xF4 → t.high ≤ 0x8F)) := by
  unfold tailAfter? at h
  repeat' split at h
  all_goals simp only [Bool.and_eq_true, decide_eq_true_eq, beq_iff_eq,
    Option.some.injEq, reduceCtorEq] at *
  all_goals
    subst h
    grind

/-- A byte with the number of another one is that byte. -/
theorem ofNat_eq {n : Nat} {b : UInt8} (h : b.toNat = n) :
    UInt8.ofNat n = b := by
  rw [← h, UInt8.ofNat_toNat]

section Encoding

variable {n : Nat} {a b c d : UInt8}

theorem utf8EncodeChar_one (h : n < 0x80) (ha : a.toNat = n) :
    String.utf8EncodeChar (Char.ofNat n) = [a] := by
  have hn : (Char.ofNat n).val.toNat = n := toNat_val_ofNat (.inl (by omega))
  unfold String.utf8EncodeChar
  dsimp only
  rw [hn, if_pos (by omega), ofNat_eq ha]

theorem utf8EncodeChar_two (h : 0x80 ≤ n) (h' : n < 0x800)
    (ha : a.toNat = n / 64 % 32 + 0xC0) (hb : b.toNat = n % 64 + 0x80) :
    String.utf8EncodeChar (Char.ofNat n) = [a, b] := by
  have hn : (Char.ofNat n).val.toNat = n := toNat_val_ofNat (.inl (by omega))
  unfold String.utf8EncodeChar
  dsimp only
  rw [hn, if_neg (by omega), if_pos (by omega), ofNat_eq ha, ofNat_eq hb]

theorem utf8EncodeChar_three (h : 0x800 ≤ n) (h' : n < 0x10000)
    (hvalid : n < 0xD800 ∨ 0xDFFF < n) (ha : a.toNat = n / 4096 % 16 + 0xE0)
    (hb : b.toNat = n / 64 % 64 + 0x80) (hc : c.toNat = n % 64 + 0x80) :
    String.utf8EncodeChar (Char.ofNat n) = [a, b, c] := by
  have hn : (Char.ofNat n).val.toNat = n :=
    toNat_val_ofNat (hvalid.imp_right fun h => ⟨h, by omega⟩)
  unfold String.utf8EncodeChar
  dsimp only
  rw [hn, if_neg (by omega), if_neg (by omega), if_pos (by omega), ofNat_eq ha,
    ofNat_eq hb, ofNat_eq hc]

theorem utf8EncodeChar_four (h : 0x10000 ≤ n) (h' : n < 0x110000)
    (ha : a.toNat = n / 262144 % 8 + 0xF0) (hb : b.toNat = n / 4096 % 64 + 0x80)
    (hc : c.toNat = n / 64 % 64 + 0x80) (hd : d.toNat = n % 64 + 0x80) :
    String.utf8EncodeChar (Char.ofNat n) = [a, b, c, d] := by
  have hn : (Char.ofNat n).val.toNat = n :=
    toNat_val_ofNat (.inr ⟨by omega, h'⟩)
  unfold String.utf8EncodeChar
  dsimp only
  rw [hn, if_neg (by omega), if_neg (by omega), if_neg (by omega), ofNat_eq ha,
    ofNat_eq hb, ofNat_eq hc, ofNat_eq hd]

end Encoding

/-- The bytes of a character that bytes begin with are those bytes. -/
theorem utf8EncodeChar_of_frontUtf8 {b : UInt8} {rest : List UInt8} {c : Char}
    {more : Nat} (h : frontUtf8 b rest = .char c more) :
    String.utf8EncodeChar c = b :: rest.take more := by
  unfold frontUtf8 at h
  split at h
  · cases h
  · next t ht =>
    dsimp only at h
    split at h
    · next hlength =>
      obtain ⟨rfl, rfl⟩ := Front.char.inj h
      rcases tailAfter?_cases ht with ⟨hcount, hb⟩ |
        ⟨hcount, hb, hb', hlow, hhigh⟩ |
          ⟨hcount, hb, hb', hlow, hhigh, hfirst, hlast⟩ |
          ⟨hcount, hb, hb', hlow, hhigh, hfirst, hlast⟩
      case inl =>
        have hnone : t.bytes rest = [] :=
          List.eq_nil_of_length_eq_zero (hlength.trans hcount)
        rw [hnone, hcount]
        exact utf8EncodeChar_one hb rfl
      all_goals
        rw [hcount] at hlength ⊢
        obtain ⟨d, more, left, rfl, hbytes, hmore, hd, hin⟩ :=
          exists_of_length_bytes hcount hlength
        rw [hbytes]
      case inr.inl =>
        obtain rfl := List.eq_nil_of_length_eq_zero hmore
        show String.utf8EncodeChar
            (Char.ofNat (64 * (b.toNat % 32) + d.toNat % 64)) = [b, d]
        exact utf8EncodeChar_two (by omega) (by omega) (by omega) (by omega)
      case inr.inr.inl =>
        obtain ⟨e, rfl⟩ := List.length_eq_one_iff.mp hmore
        have he := hin e (by simp)
        show String.utf8EncodeChar (Char.ofNat
          (64 * (64 * (b.toNat % 16) + d.toNat % 64) + e.toNat % 64)) =
            [b, d, e]
        exact utf8EncodeChar_three (by omega) (by omega) (by omega) (by omega)
          (by omega) (by omega)
      case inr.inr.inr =>
        obtain ⟨e, rest, rfl⟩ := List.exists_cons_of_length_eq_add_one hmore
        obtain ⟨f, rfl⟩ := List.length_eq_one_iff.mp (Nat.succ.inj hmore)
        have he := hin e (by simp)
        have hf := hin f (by simp)
        show String.utf8EncodeChar (Char.ofNat (64 * (64 * (64 * (b.toNat % 8) +
          d.toNat % 64) + e.toNat % 64) + f.toNat % 64)) = [b, d, e, f]
        exact utf8EncodeChar_four (by omega) (by omega) (by omega) (by omega)
          (by omega) (by omega)
    · cases h

/-- A character that bytes are read as has its bytes among them, unless it is
the one for broken bytes. -/
theorem infix_of_mem_readUtf8 {bytes : List UInt8} {c : Char}
    (h : c ∈ readUtf8 bytes) (hc : c ≠ '\uFFFD') :
    String.utf8EncodeChar c <:+: bytes := by
  induction hlength : bytes.length using Nat.strongRecOn generalizing bytes with
  | ind n ih =>
      subst hlength
      cases bytes with
      | nil =>
          rw [readUtf8] at h
          cases h
      | cons b rest =>
          have hlater (k : Nat) (hmem : c ∈ readUtf8 (rest.drop k)) :
              String.utf8EncodeChar c <:+: b :: rest := by
            have hshorter : (rest.drop k).length < (b :: rest).length := by
              rw [List.length_drop, List.length_cons]
              omega
            have hrest := ih _ hshorter hmem rfl
            exact hrest.trans ((List.drop_suffix k rest).isInfix.trans
              (List.suffix_cons b rest).isInfix)
          rw [readUtf8] at h
          split at h
          · next d more hfront =>
            rcases List.mem_cons.mp h with rfl | hmem
            · rw [utf8EncodeChar_of_frontUtf8 hfront]
              exact ((List.prefix_cons_inj b).mpr
                (List.take_prefix more rest)).isInfix
            · exact hlater more hmem
          · next more hfront =>
            rcases List.mem_cons.mp h with rfl | hmem
            · exact absurd rfl hc
            · exact hlater more hmem

/-- The first byte of a character begins one, and the bytes behind it do not. -/
theorem exists_utf8EncodeChar_eq (c : Char) :
    ∃ b tail, String.utf8EncodeChar c = b :: tail ∧
      (b.toNat < 0x80 ∨ 0xC0 ≤ b.toNat) ∧
      ∀ d ∈ tail, 0x80 ≤ d.toNat ∧ d.toNat < 0xC0 := by
  unfold String.utf8EncodeChar
  generalize c.val.toNat = n
  dsimp only
  split
  · exact ⟨_, _, rfl, by simp; omega, by simp⟩
  · split
    · exact ⟨_, _, rfl, by simp; omega, by simp; omega⟩
    · split
      · exact ⟨_, _, rfl, by simp; omega, by simp; omega⟩
      · exact ⟨_, _, rfl, by simp; omega, by simp; omega⟩

/-- Characters whose bytes begin the same bytes are the same. -/
theorem eq_of_prefix {c d : Char} {rest : List UInt8}
    (h : String.utf8EncodeChar c <+: String.utf8EncodeChar d ++ rest) :
    c = d := by
  obtain ⟨left, hleft⟩ := h
  have hread := readUtf8_utf8EncodeChar_append c left
  rw [hleft, readUtf8_utf8EncodeChar_append] at hread
  exact (List.cons.inj hread).1.symm

end Text

namespace Email

variable {s t : Glyphs} {c : Char}

/-! ## The text of glyphs -/

/-- Glyphs spell a character if they are halves of pairs that stand
for its bytes in UTF-8. -/
def Spells (t : Glyphs) (c : Char) : Prop :=
  t.map Glyph.byte? = (String.utf8EncodeChar c).map some

/-- Half of a pair that stands for a byte has that byte. -/
theorem exists_bytes_half {n : Fin 2048} (h : (Glyph.half n).isLone = false) :
    ∃ b, (Glyph.half n).byte? = some b ∧ (Glyph.half n).bytes = [b] := by
  cases hbyte : (Glyph.half n).byte? with
  | none =>
      have hlone : (Glyph.half n).isLone = true := by
        simp [Glyph.isLone, hbyte, Glyph.isHalf, Glyph.char?]
      rw [h] at hlone
      cases hlone
  | some b => exact ⟨b, rfl, by simp [Glyph.bytes, hbyte]⟩

/-- Bytes that begin no character are those of halves of pairs. -/
theorem exists_prefix_of_bytes {bytes : List UInt8} (hs : HasBytes s)
    (hbytes : ∀ b ∈ bytes, 0x80 ≤ b.toNat ∧ b.toNat < 0xC0)
    (h : bytes <+: s.flatMap Glyph.bytes) :
    ∃ t, t <+: s ∧ t.map Glyph.byte? = bytes.map some := by
  induction bytes generalizing s with
  | nil => exact ⟨[], List.nil_prefix, rfl⟩
  | cons b bytes ih =>
      cases s with
      | nil => cases List.prefix_nil.mp h
      | cons g s =>
          have hrest : HasBytes s := hs.of_suffix (List.suffix_cons g s)
          have hb := hbytes b List.mem_cons_self
          rw [List.flatMap_cons] at h
          cases g with
          | char c =>
              obtain ⟨first, tail, hchar, hfirst, -⟩ :=
                Text.exists_utf8EncodeChar_eq c
              have hsame : b :: bytes <+:
                  first :: (tail ++ s.flatMap Glyph.bytes) := by
                have h : b :: bytes <+: String.utf8EncodeChar c ++
                    s.flatMap Glyph.bytes := h
                rwa [hchar] at h
              obtain ⟨rfl, -⟩ := List.cons_prefix_cons.mp hsame
              omega
          | half n =>
              obtain ⟨d, hd, hone⟩ :=
                exists_bytes_half (hs _ List.mem_cons_self)
              rw [hone] at h
              obtain ⟨rfl, hmore⟩ := List.cons_prefix_cons.mp h
              obtain ⟨t, ht, hspells⟩ :=
                ih hrest
                  (fun x hx => hbytes x (List.mem_cons_of_mem _ hx)) hmore
              exact ⟨.half n :: t, (List.prefix_cons_inj _).mpr ht, by
                simp [hd, hspells]⟩

/-- A character whose bytes are in a text is there itself, or it is spelled. -/
theorem mem_or_spells (hs : HasBytes s)
    (h : String.utf8EncodeChar c <:+: s.flatMap Glyph.bytes) :
    .char c ∈ s ∨ ∃ t, t <:+: s ∧ Spells t c := by
  obtain ⟨b, tail, hchar, hb, htail⟩ := Text.exists_utf8EncodeChar_eq c
  induction s with
  | nil =>
      rw [hchar] at h
      cases List.infix_nil.mp h
  | cons g s ih =>
      have hrest : HasBytes s := hs.of_suffix (List.suffix_cons g s)
      have hlater (h : String.utf8EncodeChar c <:+: s.flatMap Glyph.bytes) :
          .char c ∈ g :: s ∨ ∃ t, t <:+: g :: s ∧ Spells t c := by
        rcases ih hrest h with hmem | ⟨t, ht, hspells⟩
        · exact .inl (List.mem_cons_of_mem g hmem)
        · exact .inr ⟨t, ht.trans (List.suffix_cons g s).isInfix, hspells⟩
      rw [List.flatMap_cons] at h
      obtain ⟨u, hbegins, v, hends⟩ := List.infix_iff_prefix_suffix.mp h
      -- the bytes of the character begin behind the first glyph, or inside it
      rcases List.append_eq_append_iff.mp hends with ⟨inside, hglyph, rfl⟩ |
        ⟨more, -, hbehind⟩
      case inr =>
        exact hlater (hbegins.isInfix.trans ⟨more, [], by simp [hbehind]⟩)
      cases inside with
      | nil => exact hlater hbegins.isInfix
      | cons x inside =>
          have hfirst : b = x := by
            rw [hchar] at hbegins
            exact (List.cons_prefix_cons.mp hbegins).1
          subst hfirst
          cases v with
          | nil =>
              rw [List.nil_append] at hglyph
              rw [← hglyph] at hbegins
              cases g with
              | char d =>
                  obtain rfl := Text.eq_of_prefix hbegins
                  exact .inl List.mem_cons_self
              | half n =>
                  obtain ⟨d, hd, hone⟩ :=
                    exists_bytes_half (hs _ List.mem_cons_self)
                  rw [hone, hchar] at hbegins
                  obtain ⟨rfl, hmore⟩ := List.cons_prefix_cons.mp hbegins
                  obtain ⟨t, ht, hspells⟩ :=
                    exists_prefix_of_bytes hrest htail hmore
                  refine .inr ⟨.half n :: t,
                    ((List.prefix_cons_inj _).mpr ht).isInfix, ?_⟩
                  unfold Spells
                  rw [hchar, List.map_cons, List.map_cons, hd, hspells]
          | cons first v =>
              -- no byte but the first one of a character begins one
              exfalso
              cases g with
              | char d =>
                  obtain ⟨_, rest, hother, -, hlow⟩ :=
                    Text.exists_utf8EncodeChar_eq d
                  have hbytes : String.utf8EncodeChar d = first :: v ++
                      b :: inside := hglyph
                  rw [hother] at hbytes
                  have hmem : b ∈ rest := by
                    rw [(List.cons.inj hbytes).2]
                    exact List.mem_append_right v List.mem_cons_self
                  have := hlow b hmem
                  omega
              | half n =>
                  obtain ⟨d, -, hone⟩ :=
                    exists_bytes_half (hs _ List.mem_cons_self)
                  rw [hone] at hglyph
                  have hlength := congrArg List.length hglyph
                  simp at hlength

/-- A character in the text of glyphs is one of them or is spelled by some,
unless it is the one for broken bytes. -/
theorem mem_toText (hs : HasBytes s) (hc : c ≠ '\uFFFD') (h : c ∈ toText s) :
    .char c ∈ s ∨ ∃ t, t <:+: s ∧ Spells t c := by
  unfold toText at h
  split at h
  · exact mem_or_spells hs (Text.infix_of_mem_readUtf8 h hc)
  · obtain ⟨g, hg, hchar⟩ := List.mem_filterMap.mp h
    cases g with
    | char d =>
        obtain rfl : d = c := Option.some.inj hchar
        exact .inl hg
    | half n => cases hchar

end Email

end Notices
