import Notices.Proofs.Bytes
import Notices.Proofs.EncodedName

/-!
# Line separators in the headers of a mail

A header is set from a text of one line.  That is checked before the text is
read, and reading it can still bring in a line separator: one that ends the
text, one that is encoded, or one whose bytes are halves of surrogate pairs in
the text.

* `exists_append_of_spansLines` says what a text of one line is: line
  separators are at its end only.
* `mem_of_header` and `ends_of_mem_addressHeader` say where the line
  separators of a header come from.
* `headers_come_from_single_lines` is about all headers of a message.
-/

namespace Notices

/-! ## Texts of one line -/

/-- What begins with something that is not in the front of a text is found
behind it. -/
theorem sublist_of_notMem {α : Type} {a : α} {s front t : List α}
    (h : (a :: s).Sublist (front ++ t)) (ha : a ∉ front) :
    (a :: s).Sublist t := by
  induction front with
  | nil => exact h
  | cons b front ih =>
      rw [List.cons_append] at h
      cases h with
      | cons _ h => exact ih h fun hmem => ha (List.mem_cons_of_mem b hmem)
      | cons_cons _ _ => exact absurd List.mem_cons_self ha

namespace Email

variable {s t : Glyphs} {g : Glyph} {c d : Char} {value : String}

/-- A text of one line has line separators at its end only: none, one, or a
carriage return with its line feed. -/
theorem exists_append_of_spansLines (h : spansLines s = false) :
    ∃ front ending, s = front ++ ending ∧
      (∀ g, g.isIn Text.isLineSeparator = true → g ∉ front) ∧
      (ending = [] ∨ (∃ g, g.isIn Text.isLineSeparator = true ∧ ending = [g]) ∨
        ending = [.char '\r', .char '\n']) := by
  fun_induction spansLines s with
  | case1 => exact ⟨[], [], rfl, fun _ _ => List.not_mem_nil, .inl rfl⟩
  | case2 rest =>
      obtain rfl : rest = [] := by simpa using h
      exact ⟨[], _, rfl, fun _ _ => List.not_mem_nil, .inr (.inr rfl)⟩
  | case3 g rest _ hg =>
      obtain rfl : rest = [] := by simpa using h
      exact ⟨[], [g], rfl, fun _ _ => List.not_mem_nil,
        .inr (.inl ⟨g, hg, rfl⟩)⟩
  | case4 g rest _ hg ih =>
      obtain ⟨front, ending, rfl, hfront, hending⟩ := ih h
      refine ⟨g :: front, ending, rfl, fun x hx hmem => ?_, hending⟩
      rcases List.mem_cons.mp hmem with rfl | hmem
      · exact hg hx
      · exact hfront x hx hmem

/-- A line separator ends a text: it is the last glyph, or a carriage return
that a line feed follows. -/
def EndsIn (s : Glyphs) (c : Char) : Prop :=
  s.getLast? = some (.char c) ∨ c = '\r' ∧ [.char '\r', .char '\n'] <:+ s

/-- The line separators of a text of one line end it. -/
theorem endsIn_of_mem (h : spansLines s = false)
    (hsep : Text.isLineSeparator c = true) (hc : .char c ∈ s) : EndsIn s c := by
  obtain ⟨front, ending, rfl, hfront, hending⟩ := exists_append_of_spansLines h
  have hmem : .char c ∈ ending :=
    (List.mem_append.mp hc).resolve_left (hfront _ hsep)
  rcases hending with rfl | ⟨x, -, rfl⟩ | rfl
  · exact (List.not_mem_nil hmem).elim
  · obtain rfl := List.mem_singleton.mp hmem
    exact .inl (by simp)
  · have hc : c = '\r' ∨ c = '\n' := by simpa using hmem
    rcases hc with rfl | rfl
    · exact .inr ⟨rfl, List.suffix_append _ _⟩
    · exact .inl (by simp)

/-- Nothing but a line separator stands behind one in a text of one line. -/
theorem not_sublist_of_spansLines (h : spansLines s = false)
    (hsep : Text.isLineSeparator c = true)
    (hd : Text.isLineSeparator d = false) :
    ¬ [Glyph.char c, .char d].Sublist s := by
  obtain ⟨front, ending, rfl, hfront, hending⟩ := exists_append_of_spansLines h
  intro hsub
  have hboth := sublist_of_notMem hsub (hfront _ hsep)
  rcases hending with rfl | ⟨x, -, rfl⟩ | rfl
  · cases hboth
  · exact absurd hboth.length_le (by simp)
  · obtain ⟨-, rfl⟩ : c = '\r' ∧ d = '\n' := by
      simpa using hboth.eq_of_length rfl
    exact absurd hd (by decide)

/-- A text of one line has no line separator if its last glyph is none. -/
theorem notMem_of_spansLines (h : spansLines (s ++ [.char d]) = false)
    (hsep : Text.isLineSeparator c = true)
    (hd : Text.isLineSeparator d = false) :
    .char c ∉ s ++ [.char d] := by
  intro hmem
  rcases List.mem_append.mp hmem with hc | hc
  · have hsub : [.char c, .char d].Sublist (s ++ [.char d]) :=
      (List.singleton_sublist.mpr hc).append (.refl [Glyph.char d])
    exact not_sublist_of_spansLines h hsep hd hsub
  · obtain rfl := Glyph.char.inj (List.mem_singleton.mp hc)
    rw [hd] at hsep
    cases hsep

/-! ## Spelled characters -/

/-- Halves of pairs that stand for the bytes of a character are in a text, one
behind the other. -/
def IsSpelled (s : Glyphs) (c : Char) : Prop := ∃ t, t <:+: s ∧ Spells t c

/-- Such halves are in a text in their order. -/
def MayBeSpelled (s : Glyphs) (c : Char) : Prop := ∃ t, t.Sublist s ∧ Spells t c

/-- Glyphs that spell a character are halves of pairs. -/
theorem Spells.isHalf (h : Spells t c) (hg : g ∈ t) : g.isHalf = true := by
  cases g with
  | half n => rfl
  | char d =>
      have hmem : none ∈ t.map Glyph.byte? := List.mem_map.mpr ⟨_, hg, rfl⟩
      unfold Spells at h
      rw [h] at hmem
      obtain ⟨b, -, hb⟩ := List.mem_map.mp hmem
      cases hb

/-- A text of characters spells nothing. -/
theorem not_mayBeSpelled (h : ∀ g ∈ s, g.isHalf = false) :
    ¬ MayBeSpelled s c := by
  rintro ⟨t, hsub, hspells⟩
  obtain ⟨b, tail, hchar, -⟩ := Text.exists_utf8EncodeChar_eq c
  cases t with
  | nil =>
      unfold Spells at hspells
      rw [hchar] at hspells
      cases hspells
  | cons g t =>
      have hhalf := hspells.isHalf List.mem_cons_self
      rw [h g (hsub.subset List.mem_cons_self)] at hhalf
      cases hhalf

/-- What is spelled in a text that is made of another one may be so there. -/
theorem IsSpelled.of_madeOf (h : IsSpelled t c) (hmade : MadeOf t s) :
    MayBeSpelled s c := by
  obtain ⟨u, hin, hspells⟩ := h
  have hmade : MadeOf u s := (MadeOf.of_sublist hin.sublist).trans hmade
  refine ⟨u, hmade.sublist fun g hg => ?_, hspells⟩
  have hhalf := hspells.isHalf hg
  cases g with
  | char d => cases hhalf
  | half n => rfl

/-- A glyph of a text is one of its characters. -/
theorem mem_ofText {text : List Char} :
    g ∈ ofText text ↔ ∃ c ∈ text, g = .char c := by
  simp [ofText, eq_comm]

theorem isHalf_of_mem_ofText {text : List Char} (h : g ∈ ofText text) :
    g.isHalf = false := by
  obtain ⟨c, -, rfl⟩ := mem_ofText.mp h
  rfl

/-- ASCII glyphs are characters. -/
theorem isHalf_of_isAscii (h : g.isIn isAscii = true) : g.isHalf = false := by
  cases g with
  | char c => rfl
  | half n => cases h

/-- Glyphs without halves of pairs are a text. -/
theorem exists_ofText (h : ∀ g ∈ s, g.isHalf = false) :
    ∃ text, s = ofText text := by
  induction s with
  | nil => exact ⟨[], rfl⟩
  | cons g s ih =>
      obtain ⟨text, rfl⟩ := ih fun x hx => h x (List.mem_cons_of_mem g hx)
      cases g with
      | char c => exact ⟨c :: text, rfl⟩
      | half n => cases h _ List.mem_cons_self

/-- The characters of a text that has no halves of pairs are the text. -/
theorem eq_ofText_of_chars? {text : List Char} (h : chars? s = .ok text) :
    s = ofText text := by
  unfold chars? at h
  split at h
  · cases h
  · next hnone =>
    obtain ⟨source, rfl⟩ := exists_ofText (runOf?_eq_none_iff.mp hnone)
    obtain rfl := Except.ok.inj h
    simp [ofText, List.filterMap_map, Function.comp_def, Glyph.char?]

/-! ## Headers -/

/-- A line separator is no mark. -/
theorem isMark_of_isLineSeparator (h : Text.isLineSeparator c = true) :
    isMark c = false := by
  refine Bool.eq_false_iff.mpr fun hmark => ?_
  have hmem : c ∈
      ['(', ')', '<', '>', '@', ',', ':', ';', '.', '\\', '"', '[', ']',
      ' ', '\t'] := by
    have hends : endsAtom c = true := by
      unfold isMark at hmark
      exact (Bool.and_eq_true _ _ ▸ hmark).1
    simpa [endsAtom, isSpecial, isSpace, or_assoc] using hends
  have hnone :
      ['(', ')', '<', '>', '@', ',', ':', ';', '.', '\\', '"', '[', ']',
      ' ', '\t'].all (!Text.isLineSeparator ·) = true := by decide
  have hc := List.all_eq_true.mp hnone c hmem
  simp [h] at hc

/-- A header is set from a text of one line that can be read. -/
theorem header_eq_ok {read : Glyphs → Except MailError Glyphs}
    (h : header read s = .ok value) : spansLines s = false ∧
      ∃ glyphs, read s = .ok glyphs ∧ HasBytes glyphs ∧
        value.toList = toText glyphs := by
  unfold header at h
  cases hone : spansLines s with
  | true =>
      rw [hone] at h
      cases h
  | false =>
      rw [hone] at h
      obtain ⟨glyphs, hread, h⟩ := exists_of_bind_eq_ok h
      obtain ⟨text, htext, h⟩ := exists_of_bind_eq_ok h
      obtain ⟨hbytes, rfl⟩ := toText?_eq_ok_iff.mp htext
      obtain rfl := Except.ok.inj h
      exact ⟨rfl, glyphs, hread, hbytes, String.toList_ofList ..⟩

/-- A line separator of a header is a glyph that was read, or it is spelled by
what was read. -/
theorem mem_or_isSpelled {glyphs : Glyphs} (hbytes : HasBytes glyphs)
    (hvalue : value.toList = toText glyphs)
    (hsep : Text.isLineSeparator c = true) (hc : c ∈ value.toList) :
    .char c ∈ glyphs ∨ IsSpelled glyphs c := by
  have hne : c ≠ '\uFFFD' := by
    rintro rfl
    exact absurd hsep (by decide)
  exact mem_toText hbytes hne (hvalue ▸ hc)

/-- The line separators of a header that is made of its text are read from
there, or may be spelled there. -/
theorem mem_of_header {read : Glyphs → Except MailError Glyphs}
    (h : header read s = .ok value) (hmade : MadeOf (told id (read s)) s)
    (hsep : Text.isLineSeparator c = true) (hc : c ∈ value.toList) :
    MayBeSpelled s c ∨ .char c ∈ told id (read s) ∧ .char c ∈ s := by
  obtain ⟨-, glyphs, hread, hbytes, hvalue⟩ := header_eq_ok h
  rw [hread] at hmade ⊢
  rcases mem_or_isSpelled hbytes hvalue hsep hc with hglyph | hspelled
  · exact .inr ⟨hglyph, hmade.mem hglyph (isMark_of_isLineSeparator hsep)⟩
  · exact .inl (hspelled.of_madeOf hmade)

/-! ## Address headers -/

/-- A mailbox whose parts hold no end of a line has none among its glyphs. -/
theorem Mailbox.notMem_of_not_isBroken {m : Mailbox} (h : m.isBroken = false)
    (hc : c = '\r' ∨ c = '\n') : Glyph.char c ∉ m.glyphs := by
  intro hmem
  refine List.any_eq_false.mp h _ hmem ?_
  rcases hc with rfl | rfl <;> rfl

/-- The end of a line among the glyphs of an address is in the name of a group,
so that a colon is behind it. -/
theorem Address.sublist_of_mem {a : Address}
    (h : ∀ m ∈ a.mailboxes, m.isBroken = false) (hc : c = '\r' ∨ c = '\n')
    (hmem : .char c ∈ a.glyphs) :
    [Glyph.char c, .char ':'].Sublist a.glyphs := by
  cases a with
  | mailbox m =>
      exact absurd hmem
        (Mailbox.notMem_of_not_isBroken (h m List.mem_cons_self) hc)
  | group name members =>
      rcases List.mem_append.mp hmem with hname | hbehind
      · have hcolon :=
          (List.nil_sublist (members.flatMap Mailbox.glyphs)).cons_cons
            (Glyph.char ':')
        exact (List.singleton_sublist.mpr hname).append hcolon
      · rcases List.mem_cons.mp hbehind with heq | hmembers
        · obtain rfl := Glyph.char.inj heq
          rcases hc with hc | hc <;> exact absurd hc (by decide)
        · obtain ⟨m, hm, hmem⟩ := List.mem_flatMap.mp hmembers
          exact absurd hmem (Mailbox.notMem_of_not_isBroken (h m hm) hc)

/-- What is no mark in the text of the addresses of a header is among their
glyphs. -/
theorem mem_glyphs_of_mem_addressText (hmark : g.isIn isMark = false)
    (hg : g ∈ told id (addressText s)) : ∃ addresses,
      addressesOf s = .ok addresses ∧ g ∈ addresses.flatMap Address.glyphs := by
  rw [addressText_eq] at hg
  cases hread : addressesOf s with
  | error e =>
      rw [hread] at hg
      cases hg
  | ok addresses =>
      rw [hread] at hg
      exact ⟨addresses, rfl,
        (madeOf_join_map madeOf_text addresses).mem hg hmark⟩

/-- No end of a line is read into an address header, if that holds no encoded
word. -/
theorem not_ends_of_mem_addressText (hone : spansLines s = false)
    (hplain : ¬ MayHoldWord s) (hc : .char c ∈ told id (addressText s)) :
    c ≠ '\r' ∧ c ≠ '\n' := by
  refine not_or.mp fun hend => ?_
  have hsep : Text.isLineSeparator c = true := by
    rcases hend with rfl | rfl <;> decide
  have hmark : (Glyph.char c).isIn isMark = false :=
    isMark_of_isLineSeparator hsep
  obtain ⟨addresses, hread, hmem⟩ := mem_glyphs_of_mem_addressText hmark hc
  obtain ⟨hmade, hunbroken⟩ := isOf_addressesOf hplain hread
  obtain ⟨a, ha, hmem⟩ := List.mem_flatMap.mp hmem
  -- a colon would have to be behind the separator in the header as well
  have hcolon :
      [.char c, .char ':'].Sublist (addresses.flatMap Address.glyphs) :=
    (Address.sublist_of_mem (hunbroken a ha) hend hmem).trans
      (List.sublist_flatten_of_mem (List.mem_map_of_mem ha))
  have hboth : ∀ g ∈ [Glyph.char c, .char ':'], g.isIn isMark = false := by
    intro g hg
    rcases List.mem_cons.mp hg with rfl | hcolon
    · exact hmark
    · obtain rfl := List.mem_singleton.mp hcolon
      decide
  have hsource : [.char c, .char ':'].Sublist s :=
    ((MadeOf.of_sublist hcolon).trans hmade).sublist hboth
  exact not_sublist_of_spansLines hone hsep (by decide) hsource

/-- Where a line separator in an address header comes from: the text may hold an
encoded word, or may spell the separator, or ends in it, and it is no end of a
line then. -/
theorem ends_of_mem_addressHeader (h : header addressText s = .ok value)
    (hsep : Text.isLineSeparator c = true) (hc : c ∈ value.toList) :
    MayHoldWord s ∨ MayBeSpelled s c ∨
      s.getLast? = some (.char c) ∧ c ≠ '\r' ∧ c ≠ '\n' := by
  by_cases hplain : MayHoldWord s
  · exact .inl hplain
  · refine .inr ?_
    have hone := (header_eq_ok h).1
    rcases mem_of_header h (madeOf_addressText hplain) hsep hc with hspelled |
      ⟨hread, hmem⟩
    · exact .inl hspelled
    · obtain ⟨hreturn, hfeed⟩ := not_ends_of_mem_addressText hone hplain hread
      rcases endsIn_of_mem hone hsep hmem with hlast | ⟨heq, -⟩
      · exact .inr ⟨hlast, hreturn, hfeed⟩
      · exact absurd heq hreturn

/-! ## The sender -/

/-- The sender is set from its text, and its address is ASCII. -/
theorem header_of_senderHeader {name address : Glyphs}
    (h : senderHeader name address = .ok value) :
    (∀ g ∈ address, g.isIn isAscii = true) ∧
      ∃ text, senderText? name address = .ok text ∧
        header addressText text = .ok value := by
  unfold senderHeader at h
  dsimp only at h
  split at h
  · cases h
  · next hnone =>
    refine ⟨fun g hg => ?_, exists_of_bind_eq_ok h⟩
    simpa using runOf?_eq_none_iff.mp hnone g hg

/-- What may hold an encoded word still may with more around it. -/
theorem MayHoldWord.of_madeOf (h : MayHoldWord t) (hmade : MadeOf t s) :
    MayHoldWord s := by
  obtain ⟨u, word, rest, hu, hread⟩ := h
  exact ⟨u, word, rest, hu.trans hmade, hread⟩

section Sender

variable {name address text : Glyphs}

/-- The text of a sender with a name is what is written for it, and the
address in angle brackets. -/
theorem eq_of_senderText? (hname : name ≠ [])
    (h : senderText? name address = .ok text) :
    ∃ written, writtenName? name = .ok written ∧
      text = written ++ .char ' ' :: .char '<' :: address ++ [.char '>'] := by
  unfold senderText? at h
  rw [if_neg (by simpa using hname)] at h
  obtain ⟨written, hwritten, h⟩ := exists_of_bind_eq_ok h
  exact ⟨written, hwritten, (Except.ok.inj h).symm⟩

/-- Quotes and backslashes are put around and into a name in ASCII. -/
theorem madeOf_writtenName? {written : Glyphs}
    (hascii : name.all (·.isIn isAscii) = true)
    (h : writtenName? name = .ok written) :
    MadeOf written name := by
  unfold writtenName? at h
  rw [if_pos hascii] at h
  obtain rfl := Except.ok.inj h
  have hquote : (Glyph.char '"').isIn isMark = true := by decide
  split
  · exact ((madeOf_escapeQuotes name).cons_mark hquote).append_mark hquote
  · simpa using madeOf_escapeQuotes name

/-- The text of a sender with an ASCII name is made of the name and the
address. -/
theorem madeOf_senderText? (hascii : name.all (·.isIn isAscii) = true)
    (h : senderText? name address = .ok text) :
    MadeOf text (name ++ address) := by
  by_cases hname : name = []
  · subst hname
    obtain rfl := Except.ok.inj h
    exact .refl _
  · obtain ⟨written, hwritten, rfl⟩ := eq_of_senderText? hname h
    have hfront : MadeOf (.char ' ' :: .char '<' :: address) address :=
      ((MadeOf.refl _).cons_mark (by decide)).cons_mark (by decide)
    have hbehind :
        MadeOf (.char ' ' :: .char '<' :: address ++ [.char '>']) address :=
      hfront.append_mark (by decide)
    rw [List.append_assoc]
    exact (madeOf_writtenName? hascii hwritten).append hbehind

/-- There is no line separator in the text of a sender with a name. -/
theorem notMem_senderText? (hname : name ≠ [])
    (h : senderText? name address = .ok text) (hone : spansLines text = false)
    (hsep : Text.isLineSeparator c = true) :
    .char c ∉ text := by
  obtain ⟨written, -, rfl⟩ := eq_of_senderText? hname h
  exact notMem_of_spansLines hone hsep (by decide)

/-- The address is in the text of the sender. -/
theorem mem_senderText? (h : senderText? name address = .ok text)
    (hg : g ∈ address) :
    g ∈ text := by
  by_cases hname : name = []
  · subst hname
    obtain rfl := Except.ok.inj h
    exact hg
  · obtain ⟨written, -, rfl⟩ := eq_of_senderText? hname h
    simp [hg]

/-- If there is a line separator in a sender with an ASCII name, the name and
the address may hold an encoded word. -/
theorem mayHoldWord_of_mem_sender (hascii : name.all (·.isIn isAscii) = true)
    (haddress : ∀ g ∈ address, g.isIn isAscii = true)
    (htext : senderText? name address = .ok text)
    (hsep : Text.isLineSeparator c = true) (hplain : .char c ∉ address)
    (h : header addressText text = .ok value) (hc : c ∈ value.toList) :
    MayHoldWord (name ++ address) := by
  by_contra hword
  have hmade := madeOf_senderText? hascii htext
  have htextPlain : ¬ MayHoldWord text :=
    fun hmay => hword (hmay.of_madeOf hmade)
  rcases mem_of_header h (madeOf_addressText htextPlain) hsep hc with
    hspelled | ⟨-, hmem⟩
  · obtain ⟨t, hsub, hspells⟩ := hspelled
    have hspelled : IsSpelled t c := ⟨t, List.infix_rfl, hspells⟩
    refine not_mayBeSpelled (fun g hg => isHalf_of_isAscii ?_)
      (hspelled.of_madeOf ((MadeOf.of_sublist hsub).trans hmade))
    rcases List.mem_append.mp hg with hg | hg
    · exact List.all_eq_true.mp hascii g hg
    · exact haddress g hg
  · by_cases hname : name = []
    · subst hname
      obtain rfl := Except.ok.inj htext
      exact hplain hmem
    · exact notMem_senderText? hname htext (header_eq_ok h).1 hsep hmem

/-- A line separator in a sender with a name that is not ASCII was in the name,
and is no end of a line, or the address may hold an encoded word. -/
theorem of_mem_encodedSender (hascii : name.all (·.isIn isAscii) = false)
    (haddress : ∀ g ∈ address, g.isIn isAscii = true)
    (htext : senderText? name address = .ok text)
    (hsep : Text.isLineSeparator c = true)
    (h : header addressText text = .ok value) (hc : c ∈ value.toList) :
    MayHoldWord address ∨ .char c ∈ name ∧ c ≠ '\r' ∧ c ≠ '\n' := by
  refine Classical.or_iff_not_imp_left.mpr fun hword => ?_
  have hname : name ≠ [] := by
    rintro rfl
    cases hascii
  obtain ⟨written, hwritten, htextEq⟩ := eq_of_senderText? hname htext
  -- a name that is encoded is a text of characters
  unfold writtenName? at hwritten
  rw [hascii, if_neg Bool.false_ne_true] at hwritten
  obtain ⟨chars, hchars, hencoded⟩ := exists_of_bind_eq_ok hwritten
  obtain rfl := eq_ofText_of_chars? hchars
  obtain rfl : ofText (encodedName chars) = written := Except.ok.inj hencoded
  let rest := address ++ [.char '>']
  have hnamed : text = named chars rest := by
    rw [htextEq]
    simp [named, rest]
  have hchars : chars ≠ [] := by
    rintro rfl
    exact hname rfl
  have hplain : ¬ MayHoldWord (.char '<' :: rest) := by
    have hmade : MadeOf (.char '<' :: rest) address :=
      ((MadeOf.refl _).append_mark (by decide)).cons_mark (by decide)
    exact fun hmay => hword (hmay.of_madeOf hmade)
  obtain ⟨hone, glyphs, hread, hbytes, hvalue⟩ := header_eq_ok h
  rw [hnamed] at hread
  have hfrom {g : Glyph} (hg : g ∈ glyphs) (hmark : g.isIn isMark = false) :
      g ∈ rest ∨
        g ∈ collapse (ofText chars) ∧ g ≠ .char '\r' ∧ g ≠ .char '\n' := by
    have hg : g ∈ told id (addressText (named chars rest)) := by rwa [hread]
    obtain ⟨addresses, haddresses, hmem⟩ :=
      mem_glyphs_of_mem_addressText hmark hg
    exact mem_addressesOf_named hchars rest hplain haddresses hmark hmem
  have hcollapse {g : Glyph} (hg : g ∈ collapse (ofText chars)) :
      g = .char ' ' ∨ ∃ c ∈ chars, g = .char c :=
    (mem_collapse hg).imp_right mem_ofText.mp
  have hwhole : ∀ g ∈ glyphs, g.isHalf = false := by
    intro g hg
    cases g with
    | char d => rfl
    | half n =>
        rcases hfrom hg rfl with hg | ⟨hg, -, -⟩
        · rcases List.mem_append.mp hg with hg | hg
          · exact isHalf_of_isAscii (haddress _ hg)
          · cases List.mem_singleton.mp hg
        · rcases hcollapse hg with heq | ⟨_, -, heq⟩ <;> cases heq
  have hglyph : .char c ∈ glyphs := by
    rcases mem_or_isSpelled hbytes hvalue hsep hc with hglyph |
      ⟨t, hin, hspells⟩
    · exact hglyph
    · exact absurd ⟨t, hin.sublist, hspells⟩ (not_mayBeSpelled hwhole)
  rcases hfrom hglyph (isMark_of_isLineSeparator hsep) with hg |
    ⟨hg, hreturn, hfeed⟩
  · have hmem : .char c ∈ text := by
      rw [hnamed]
      exact List.mem_append_right _
        (List.mem_cons_of_mem _ (List.mem_cons_of_mem _ hg))
    exact absurd hmem (notMem_senderText? hname htext hone hsep)
  · rcases hcollapse hg with heq | ⟨d, hd, heq⟩
    · obtain rfl := Glyph.char.inj heq
      exact absurd hsep (by decide)
    · obtain rfl := Glyph.char.inj heq
      exact ⟨mem_ofText.mpr ⟨c, hd, rfl⟩, fun heq => hreturn (heq ▸ rfl),
        fun heq => hfeed (heq ▸ rfl)⟩

end Sender

/-! ## The message id -/

/-- What may hold an encoded word still may without what is in front, if there
is no equals sign in that. -/
theorem MayHoldWord.of_append {front : Glyphs} (h : MayHoldWord (front ++ s))
    (hfront : .char '=' ∉ front) : MayHoldWord s := by
  obtain ⟨t, word, rest, hmade, hread⟩ := h
  refine ⟨t, word, rest, ?_, hread⟩
  obtain ⟨body, rfl⟩ : ∃ body, t = .char '=' :: body := by
    unfold readEncodedWord? splitWord? at hread
    split at hread
    · exact ⟨_, rfl⟩
    · cases hread
  have hequals : (Glyph.char '=').isIn isMark = false := by decide
  unfold MadeOf at hmade ⊢
  rw [substance_append, substance_cons_of_not_mark hequals] at hmade
  rw [substance_cons_of_not_mark hequals]
  exact sublist_of_notMem hmade fun hmem => hfront (List.mem_filter.mp hmem).1

section MessageId

variable {draft : Draft} {number : Nat}

/-- The domain of an id is in the address of the sender, if it is not the local
one. -/
theorem idDomain_of_suffix (draft : Draft) :
    draft.idDomain = ofText "localhost".toList ∨
    draft.idDomain <:+ draft.senderAddress := by
  unfold Draft.idDomain
  dsimp only
  split
  · exact .inl rfl
  · refine .inr ?_
    rw [← List.reverse_prefix, List.reverse_reverse]
    exact List.takeWhile_prefix _

/-- The last glyph of the sender's address is in the domain of the id, unless it
is `@`. -/
theorem mem_idDomain (hlast : draft.senderAddress.getLast? = some g)
    (hg : g ≠ .char '@') :
    g ∈ draft.idDomain := by
  obtain ⟨front, hfront⟩ := List.getLast?_eq_some_iff.mp hlast
  simp [Draft.idDomain, hfront, hg]

/-- There is no line separator in the text of an id that can be set. -/
theorem notMem_writtenId (h : spansLines (draft.writtenId number) = false)
    (hsep : Text.isLineSeparator c = true) : .char c ∉ draft.writtenId number :=
  notMem_of_spansLines h hsep (by decide)

/-- There are no halves of pairs in the text of an id whose address is ASCII. -/
theorem isHalf_of_mem_writtenId
    (haddress : ∀ g ∈ draft.senderAddress, g.isIn isAscii = true)
    (hg : g ∈ draft.writtenId number) : g.isHalf = false := by
  have hdomain : ∀ g ∈ draft.idDomain, g.isHalf = false := by
    intro g hg
    rcases idDomain_of_suffix draft with hlocal | hsuffix
    · rw [hlocal] at hg
      exact isHalf_of_mem_ofText hg
    · exact isHalf_of_isAscii (haddress g (hsuffix.subset hg))
  rw [writtenId_eq] at hg
  simp only [List.mem_cons, List.mem_append, List.not_mem_nil, or_false] at hg
  rcases hg with rfl | hg | rfl | hg | rfl
  · rfl
  · exact isHalf_of_mem_ofText hg
  · rfl
  · exact hdomain g hg
  · rfl

/-- If there is a line separator in a message id, the address of the sender may
hold an encoded word. -/
theorem mayHoldWord_of_mem_id
    (haddress : ∀ g ∈ draft.senderAddress, g.isIn isAscii = true)
    (h : draft.messageId? number = .ok value)
    (hsep : Text.isLineSeparator c = true) (hc : c ∈ value.toList) :
    MayHoldWord draft.senderAddress := by
  have hid : MayHoldWord (draft.writtenId number) := by
    by_contra hplain
    rcases mem_of_header h (madeOf_idText hplain) hsep hc with
      hspelled | ⟨-, hmem⟩
    · exact not_mayBeSpelled
        (fun g => isHalf_of_mem_writtenId haddress) hspelled
    · exact notMem_writtenId (header_eq_ok h).1 hsep hmem
  -- what is before the domain has no equals sign
  have hleft : Glyph.char '=' ∉
      .char '<' :: (ofText (idLeft number) ++ [.char '@']) := by
    intro hmem
    have hmem : '=' ∈ idLeft number := by simpa [ofText] using hmem
    rcases List.mem_append.mp hmem with hmark | hdigit
    · revert hmark
      decide
    · exact absurd (Nat.isDigit_of_mem_toDigits (by decide) (by decide) hdigit)
        (by decide)
  have hsplit : draft.writtenId number =
      (.char '<' :: (ofText (idLeft number) ++ [.char '@'])) ++
        (draft.idDomain ++ [.char '>']) := by
    simp [writtenId_eq]
  rw [hsplit] at hid
  have hdomain : MayHoldWord draft.idDomain :=
    (hid.of_append hleft).of_madeOf ((MadeOf.refl _).append_mark (by decide))
  rcases idDomain_of_suffix draft with hlocal | hsuffix
  · rw [hlocal] at hdomain
    exact absurd hdomain (not_mayHoldWord_of_notMem (by decide))
  · exact hdomain.of_madeOf (.of_sublist hsuffix.sublist)

end MessageId

/-! ## All headers of a message -/

/-- The headers of a message are set one by one. -/
structure Message.SetFrom (message : Message) (draft : Draft) (number : Nat) :
    Prop where
  sender : senderHeader draft.senderName draft.senderAddress =
    .ok message.sender
  recipient : header addressText draft.recipient = .ok message.recipient
  replyTo : header addressText draft.answerAddress = .ok message.replyTo
  subject : header (fun s => .ok (readFreeText s)) draft.subject =
    .ok message.subject
  id : draft.messageId? number = .ok message.id

/-- A mail is composed by setting all headers. -/
theorem setFrom_of_compose? {draft : Draft} {number : Nat} {message : Message}
    (h : draft.compose? number = .ok message) :
    message.SetFrom draft number := by
  obtain ⟨headers, hheaders, hfinish⟩ := exists_of_bind_eq_ok h
  obtain ⟨sender, hsender, hheaders⟩ := exists_of_bind_eq_ok hheaders
  obtain ⟨recipient, hrecipient, hheaders⟩ := exists_of_bind_eq_ok hheaders
  obtain ⟨replyTo, hreply, hheaders⟩ := exists_of_bind_eq_ok hheaders
  obtain ⟨subject, hsubject, hheaders⟩ := exists_of_bind_eq_ok hheaders
  obtain rfl := Except.ok.inj hheaders
  obtain ⟨id, hid, hfinish⟩ := exists_of_bind_eq_ok hfinish
  obtain ⟨text, -, hfinish⟩ := exists_of_bind_eq_ok hfinish
  obtain ⟨html, -, hfinish⟩ := exists_of_bind_eq_ok hfinish
  obtain rfl := Except.ok.inj hfinish
  exact ⟨hsender, hrecipient, hreply, hsubject, hid⟩

/-- There is no line separator in the address of a sender whose mail can be
composed. -/
theorem notMem_address {draft : Draft} {number : Nat} {text : Glyphs}
    (htext : senderText? draft.senderName draft.senderAddress = .ok text)
    (hone : spansLines text = false)
    (hid : spansLines (draft.writtenId number) = false)
    (hsep : Text.isLineSeparator c = true) : .char c ∉ draft.senderAddress := by
  intro hc
  by_cases hname : draft.senderName = []
  · -- an address by itself may end in a separator, but then the id would have
    -- it inside
    rw [hname] at htext
    obtain rfl := Except.ok.inj htext
    obtain ⟨d, hlast, hd⟩ : ∃ d, draft.senderAddress.getLast? = some (.char d) ∧
        Text.isLineSeparator d = true := by
      rcases endsIn_of_mem hone hsep hc with hlast | ⟨-, front, hfront⟩
      · exact ⟨c, hlast, hsep⟩
      · exact ⟨'\n', by simp [← hfront], by decide⟩
    have hat : Glyph.char d ≠ .char '@' := by
      intro heq
      obtain rfl := Glyph.char.inj heq
      exact absurd hd (by decide)
    have hmem : .char d ∈ draft.writtenId number := by
      simp [writtenId_eq, mem_idDomain hlast hat]
    exact notMem_writtenId hid hd hmem
  · exact notMem_senderText? hname htext hone hsep (mem_senderText? htext hc)

/-- The texts that the headers of a mail are set from are of one line each. -/
structure Draft.IsOfLines (draft : Draft) (number : Nat) : Prop where
  sender : ∃ text, senderText? draft.senderName draft.senderAddress = .ok text ∧
    spansLines text = false
  recipient : spansLines draft.recipient = false
  replyTo : spansLines draft.answerAddress = false
  subject : spansLines draft.subject = false
  id : spansLines (draft.writtenId number) = false

/-- Where a line separator in the headers of a message comes from.

A name that is not ASCII is encoded, so that nothing in it is taken for a
separator before it is read.  No mailbox holds the end of a line, so none comes
from such a name or from the end of an address header.  The address of a sender
is ASCII, and a name is encoded only if it has no halves of surrogate pairs, so
that no separator can be spelled there. -/
structure Message.HasSeparatorOf (message : Message) (c : Char)
    (draft : Draft) :
    Prop where
  sender : c ∈ message.sender.toList →
    draft.senderName.all (·.isIn isAscii) = true →
    MayHoldWord (draft.senderName ++ draft.senderAddress)
  encodedSender : c ∈ message.sender.toList →
    draft.senderName.all (·.isIn isAscii) = false →
      MayHoldWord draft.senderAddress ∨
        .char c ∈ draft.senderName ∧ c ≠ '\r' ∧ c ≠ '\n'
  recipient : c ∈ message.recipient.toList →
    MayHoldWord draft.recipient ∨ MayBeSpelled draft.recipient c ∨
      draft.recipient.getLast? = some (.char c) ∧ c ≠ '\r' ∧ c ≠ '\n'
  replyTo : c ∈ message.replyTo.toList →
    MayHoldWord draft.answerAddress ∨ MayBeSpelled draft.answerAddress c ∨
      draft.answerAddress.getLast? = some (.char c) ∧ c ≠ '\r' ∧ c ≠ '\n'
  subject : c ∈ message.subject.toList →
    HoldsWord draft.subject ∨ IsSpelled draft.subject c ∨ EndsIn draft.subject c
  id : c ∈ message.id.toList → MayHoldWord draft.senderAddress

/-- **The headers of a message that can be composed come from texts of
one line.**  A line separator in one of them ends its text, is in a name
that is not ASCII, is spelled by halves of surrogate pairs, or has to do
with an encoded word. -/
theorem headers_come_from_single_lines {draft : Draft} {number : Nat}
    {message : Message} (h : draft.compose? number = .ok message) :
    draft.IsOfLines number ∧
      ∀ c, Text.isLineSeparator c = true → message.HasSeparatorOf c draft := by
  have hset := setFrom_of_compose? h
  obtain ⟨haddress, text, htext, hsender⟩ := header_of_senderHeader hset.sender
  have hone := (header_eq_ok hsender).1
  have hid := (header_eq_ok hset.id).1
  refine ⟨⟨⟨text, htext, hone⟩, (header_eq_ok hset.recipient).1,
    (header_eq_ok hset.replyTo).1, (header_eq_ok hset.subject).1, hid⟩,
      fun c hsep => ?_⟩
  constructor
  case sender =>
    intro hc hascii
    have hplain := notMem_address htext hone hid hsep
    exact mayHoldWord_of_mem_sender hascii haddress htext hsep hplain hsender hc
  case encodedSender =>
    exact fun hc hascii =>
      of_mem_encodedSender hascii haddress htext hsep hsender hc
  case recipient => exact ends_of_mem_addressHeader hset.recipient hsep
  case replyTo => exact ends_of_mem_addressHeader hset.replyTo hsep
  case id => exact mayHoldWord_of_mem_id haddress hset.id hsep
  case subject =>
    refine fun hc => Classical.or_iff_not_imp_left.mpr fun hword => ?_
    obtain ⟨hsubject, glyphs, hread, hbytes, hvalue⟩ :=
      header_eq_ok hset.subject
    obtain rfl := Except.ok.inj hread
    rw [readFreeText_of_noWord hword] at hbytes hvalue
    rcases mem_or_isSpelled hbytes hvalue hsep hc with hmem | hspelled
    · exact .inr (endsIn_of_mem hsubject hsep hmem)
    · exact .inl hspelled

/-- A mail of a café. -/
def cafeMail : Draft where
  recipient := ofText "ann@example.com".toList
  subject := ofText "Hi".toList
  html := ofText "<p>Hi</p>".toList
  text := ofText "Hi".toList
  senderName := ofText "Café".toList
  senderAddress := ofText "shop@example.com".toList

/-- A mail that is composed to a message that passes a test. -/
theorem exists_message_of_any {draft : Draft} {number : Nat}
    {p : Message → Bool} (h : (draft.compose? number).toOption.any p = true) :
    ∃ message, draft.compose? number = .ok message ∧ p message = true := by
  cases hmessage : draft.compose? number with
  | error e =>
      rw [hmessage] at h
      cases h
  | ok message =>
      rw [hmessage] at h
      exact ⟨message, rfl, h⟩

/-- The mail of the café, with a name that has to be encoded, has no line
separator in any header. -/
theorem headers_of_a_cafe : ∃ message, cafeMail.compose? 1 = .ok message ∧
    ∀ c, Text.isLineSeparator c = true →
      c ∉ message.sender.toList ∧ c ∉ message.recipient.toList ∧
        c ∉ message.replyTo.toList ∧ c ∉ message.subject.toList ∧
          c ∉ message.id.toList := by
  have hcomposed : (cafeMail.compose? 1).toOption.any (fun _ => true) =
      true := by
    decide +kernel
  obtain ⟨message, hmessage, -⟩ := exists_message_of_any hcomposed
  obtain ⟨-, hfrom⟩ := headers_come_from_single_lines hmessage
  refine ⟨message, hmessage, fun c hsep => ?_⟩
  have hc := hfrom c hsep
  have hname : cafeMail.senderName.all (!·.isIn Text.isLineSeparator) =
      true := by decide
  have hsender : ¬ MayHoldWord cafeMail.senderAddress :=
    not_mayHoldWord_of_notMem (by decide)
  have hrecipient : ¬ MayHoldWord cafeMail.recipient :=
    not_mayHoldWord_of_notMem (by decide)
  have hsubject : ¬ HoldsWord cafeMail.subject := fun h =>
    not_mayHoldWord_of_notMem (by decide) h.may
  have hplain (text : List Char) : ¬ MayBeSpelled (ofText text) c :=
    not_mayBeSpelled fun _ => isHalf_of_mem_ofText
  have hlast {d : Char} (hd : some (Glyph.char d) = some (.char c)) :
      Text.isLineSeparator d = true := by
    rw [Glyph.char.inj (Option.some.inj hd)]
    exact hsep
  refine ⟨?_, ?_, ?_, ?_, fun hmem => hsender (hc.id hmem)⟩
  · intro hmem
    rcases hc.encodedSender hmem (by decide) with hword | ⟨hin, -⟩
    · exact hsender hword
    · have hother := List.all_eq_true.mp hname _ hin
      simp [Glyph.isIn, hsep] at hother
  · intro hmem
    rcases hc.recipient hmem with hword | hspelled | ⟨hends, -⟩
    · exact hrecipient hword
    · exact hplain _ hspelled
    · exact absurd (hlast (d := 'm') hends) (by decide)
  · intro hmem
    rcases hc.replyTo hmem with hword | hspelled | ⟨hends, -⟩
    · exact hsender hword
    · exact hplain _ hspelled
    · exact absurd (hlast (d := 'm') hends) (by decide)
  · intro hmem
    rcases hc.subject hmem with hword | ⟨t, hin, hspells⟩ | hends | ⟨-, hends⟩
    · exact hsubject hword
    · exact hplain _ ⟨t, hin.sublist, hspells⟩
    · exact absurd (hlast (d := 'i') hends) (by decide)
    · exact absurd hends (by decide)

/-- Ways for a line separator to get into a header: at the end of a subject or
of a recipient, in a name that is not ASCII, in an encoded word, and as halves
of surrogate pairs in a subject or in a recipient. -/
theorem separators_that_get_through :
    (∃ message, ({ cafeMail with
      subject := ofText "nl\n".toList } : Draft).compose? 1 = .ok message ∧
      '\n' ∈ message.subject.toList) ∧
    (∃ message, ({ cafeMail with
      recipient := ofText "ann\x1c".toList } : Draft).compose? 1 = .ok message ∧
      '\x1c' ∈ message.recipient.toList) ∧
    (∃ message, ({ cafeMail with
      senderName := ofText "Caf\u2028é".toList } : Draft).compose? 1 =
        .ok message ∧
      '\u2028' ∈ message.sender.toList) ∧
    (∃ message, ({ cafeMail with
      subject := ofText "=?utf-8?q?a=0Ab?=".toList } : Draft).compose? 1 =
        .ok message ∧
      '\n' ∈ message.subject.toList) ∧
    (∃ message, ({ cafeMail with
      subject := ofText "Hello ".toList ++ [.byte 0xC2, .byte 0x85] ++
        ofText " there".toList } : Draft).compose? 1 = .ok message ∧
      '\u0085' ∈ message.subject.toList) ∧
    ∃ message, ({ cafeMail with
      recipient := .char 'x' :: [.byte 0xE2, .byte 0x80, .byte 0xA9] ++
        ofText " <a@b.com>".toList } : Draft).compose? 1 = .ok message ∧
      '\u2029' ∈ message.recipient.toList := by
  have hget {draft : Draft} {p : Message → List Char} {c : Char}
      (h : (draft.compose? 1).toOption.any (fun m => (p m).contains c) = true) :
      ∃ message, draft.compose? 1 = .ok message ∧ c ∈ p message := by
    obtain ⟨message, hmessage, hc⟩ := exists_message_of_any h
    exact ⟨message, hmessage, by simpa using hc⟩
  refine ⟨hget ?_, hget ?_, hget ?_, hget ?_, hget ?_, hget ?_⟩
  all_goals decide +kernel

end Email

end Notices
