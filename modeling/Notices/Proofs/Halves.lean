import Notices.Proofs.Addresses

/-!
# Halves of surrogate pairs in a header

A header can be set only if every half of a surrogate pair that has been read
stands for a byte.  Encoded words yield no other halves, so that a header of
characters is never refused for them.

* `HasBytes` says that every half stands for a byte, and `toText?_eq_ok_iff`
  that such texts are those that can be set.
* `hasBytes_readEncodedWord?` is about encoded words, `Keeps` about readers,
  and `hasBytes_idText` about the text of a message id.
-/

namespace Notices.Email

variable {s t : Glyphs}

/-! ## Texts that have bytes -/

/-- All of a text has bytes: every half of a pair in it stands for one. -/
def HasBytes (s : Glyphs) : Prop := ∀ g ∈ s, g.isLone = false

/-- No run is found if there is no glyph that it can begin with. -/
theorem runOf?_eq_none_iff {isFirst goesOn : Glyph → Bool} :
    runOf? isFirst goesOn s = none ↔ ∀ g ∈ s, isFirst g = false := by
  unfold runOf?
  constructor
  · intro h g hg
    split at h
    · next hnone =>
      have hall := List.dropWhile_eq_nil_iff.mp hnone g hg
      simpa using hall
    · cases h
  · intro h
    have hnone : s.dropWhile (!isFirst ·) = [] :=
      List.dropWhile_eq_nil_iff.mpr fun g hg => by simp [h g hg]
    rw [hnone]

/-- The glyphs that have a text are those that have bytes. -/
theorem toText?_eq_ok_iff {text : List Char} :
    toText? s = .ok text ↔ HasBytes s ∧ toText s = text := by
  unfold toText?
  cases hrun : runOf? Glyph.isLone Glyph.isHalf s with
  | none =>
      have hbytes : HasBytes s := runOf?_eq_none_iff.mp hrun
      simp [hbytes]
  | some run =>
      have hlone : ¬ HasBytes s := fun h => by
        rw [runOf?_eq_none_iff.mpr h] at hrun
        cases hrun
      simp [hlone]

namespace HasBytes

theorem nil : HasBytes [] := fun _ hg => (List.not_mem_nil hg).elim

theorem append_iff : HasBytes (s ++ t) ↔ HasBytes s ∧ HasBytes t :=
  List.forall_mem_append

theorem append (hs : HasBytes s) (ht : HasBytes t) : HasBytes (s ++ t) :=
  append_iff.mpr ⟨hs, ht⟩

/-- The end of a text that has bytes has them as well. -/
theorem of_suffix (hs : HasBytes s) (h : t <:+ s) : HasBytes t :=
  fun g hg => hs g (h.subset hg)

/-- A character can be put in front. -/
theorem cons (c : Char) (hs : HasBytes s) : HasBytes (.char c :: s) :=
  List.forall_mem_cons.mpr ⟨rfl, hs⟩

/-- A half of a pair is no mark, so that it is where the text was made of. -/
theorem of_madeOf (hs : HasBytes s) (h : MadeOf t s) : HasBytes t := by
  intro g hg
  cases g with
  | char c => rfl
  | half n => exact hs _ (h.mem hg rfl)

end HasBytes

/-- A text of characters has bytes. -/
theorem hasBytes_ofText (text : List Char) : HasBytes (ofText text) := by
  intro g hg
  obtain ⟨c, -, rfl⟩ := List.mem_map.mp hg
  rfl

/-! ## Encoded words -/

/-- The half of a pair for a byte above ASCII stands for it. -/
theorem Glyph.byte?_byte {b : UInt8} (h : 128 ≤ b) :
    (byte b).byte? = some b := by
  have hlow : 128 ≤ b.toNat := UInt8.le_iff_toNat_le.mp h
  have hhigh := b.toNat_lt
  have hin : 0x480 ≤ 0x400 + b.toNat ∧ 0x400 + b.toNat < 0x500 := by omega
  simp [byte, byte?, hin]

/-- A byte above ASCII is no lone half. -/
theorem Glyph.isLone_byte {b : UInt8} (h : 128 ≤ b) :
    (byte b).isLone = false := by
  simp [isLone, byte?_byte h]

namespace HasBytes

/-- What is decoded has bytes. -/
theorem decodeBy? {front : UInt8 → List UInt8 → Text.Front} {bytes : List UInt8}
    (h : Charset.decodeBy? front bytes = some s) : HasBytes s := by
  induction hlength : bytes.length
    using Nat.strongRecOn generalizing bytes s with
  | ind n ih =>
      subst hlength
      unfold Charset.decodeBy? at h
      split at h
      · obtain rfl := Option.some.inj h
        exact nil
      · next b rest =>
        have hshorter (k : Nat) :
            (rest.drop k).length < (b :: rest).length := by
          rw [List.length_drop, List.length_cons]
          omega
        split at h
        · obtain ⟨more, hmore, rfl⟩ := Option.map_eq_some_iff.mp h
          have hrest : HasBytes more := ih _ (hshorter _) hmore rfl
          exact cons _ hrest
        · split at h
          · cases h
          · next hb =>
            dsimp only at h
            obtain ⟨more, hmore, rfl⟩ := Option.map_eq_some_iff.mp h
            have hrest : HasBytes more := ih _ (hshorter _) hmore rfl
            refine append ?_ hrest
            intro g hg
            rcases List.mem_cons.mp hg with rfl | hg
            · exact Glyph.isLone_byte (UInt8.not_lt.mp hb)
            · obtain ⟨c, hc, rfl⟩ := List.mem_map.mp hg
              have hhigh := List.mem_takeWhile_imp hc
              exact Glyph.isLone_byte (by simpa using hhigh)

/-- What is decoded in a charset has bytes. -/
theorem decode? {charset : Charset} {bytes : List UInt8}
    (h : charset.decode? bytes = some s) : HasBytes s := by
  unfold Charset.decode? at h
  repeat' split at h
  all_goals exact decodeBy? h

/-- A byte as an ASCII character or as a byte. -/
theorem asciiGlyphs (bytes : List UInt8) : HasBytes (bytes.map asciiGlyph) := by
  intro g hg
  obtain ⟨b, -, rfl⟩ := List.mem_map.mp hg
  unfold asciiGlyph
  split
  · rfl
  · next hb => exact Glyph.isLone_byte (UInt8.not_lt.mp hb)

theorem decodeNamed? {name : Glyphs} {bytes : List UInt8}
    (h : Email.decodeNamed? name bytes = some s) : HasBytes s := by
  unfold Email.decodeNamed? at h
  split at h
  · obtain rfl := Option.some.inj h
    exact asciiGlyphs bytes
  · split at h
    · cases h
    · split at h
      · exact decode? h
      · obtain rfl := Option.some.inj h
        exact asciiGlyphs bytes

theorem decodeWord? {inside : Glyphs} (h : Email.decodeWord? inside = some s) :
    HasBytes s := by
  unfold Email.decodeWord? at h
  split at h
  · obtain ⟨text, -, h⟩ := Option.bind_eq_some_iff.mp h
    obtain ⟨bytes, -, h⟩ := Option.bind_eq_some_iff.mp h
    exact decodeNamed? h
  · cases h

end HasBytes

/-- What is behind an encoded word is the end of the text. -/
theorem suffix_of_splitWord? {inside rest : Glyphs}
    (h : splitWord? s = some (inside, rest)) : rest <:+ s := by
  unfold splitWord? at h
  split at h
  · next body =>
    have hbody : body <:+ .char '=' :: .char '?' :: body :=
      ⟨[.char '=', .char '?'], rfl⟩
    split at h
    · cases h
    · next first left hcut =>
      have hleft : left <:+ body :=
        ⟨first ++ wordEnd, (Text.eq_append_of_cut hcut).symm⟩
      dsimp only at h
      split at h
      · obtain ⟨-, rfl⟩ := Prod.mk.inj (Option.some.inj h)
        refine List.IsSuffix.trans ?_ (hleft.trans hbody)
        cases hnext : Text.cut wordEnd left with
        | none => exact List.nil_suffix
        | some parts =>
            exact ⟨parts.1 ++ wordEnd, (Text.eq_append_of_cut hnext).symm⟩
      · obtain ⟨-, rfl⟩ := Prod.mk.inj (Option.some.inj h)
        exact hleft.trans hbody
  · cases h

/-- An encoded word has bytes, and what is behind it is the end of the text. -/
theorem hasBytes_readEncodedWord? {word rest : Glyphs}
    (h : readEncodedWord? s = some (word, rest)) :
    HasBytes word ∧ rest <:+ s := by
  obtain ⟨⟨inside, left⟩, hsplit, h⟩ := Option.bind_eq_some_iff.mp h
  obtain ⟨decoded, hdecoded, h⟩ := Option.bind_eq_some_iff.mp h
  obtain ⟨rfl, rfl⟩ := Prod.mk.inj (Option.some.inj h)
  exact ⟨.decodeWord? hdecoded, suffix_of_splitWord? hsplit⟩

/-! ## Readers -/

/-- A reader keeps to bytes: of a text that has bytes it yields glyphs that
have, and leaves such a text. -/
def Keeps {m : Type → Type} [Monad m] [MayBe m] {α : Type}
    (r : StateT Glyphs m α) (f : α → Glyphs) : Prop :=
  ∀ s a rest, HasBytes s → MayBe.mayBe (r s) (a, rest) →
    HasBytes (f a) ∧ HasBytes rest

namespace Keeps

section Steps

variable {m : Type → Type} [Monad m] [MayBe m] {α β : Type}
variable {r : StateT Glyphs m α} {k : α → StateT Glyphs m β}
variable {f : α → Glyphs} {g : β → Glyphs}

theorem pure {a : α} (h : HasBytes (f a)) :
    Keeps (Pure.pure a : StateT Glyphs m α) f := by
  intro s b rest hs hrun
  obtain ⟨rfl, rfl⟩ := Prod.mk.inj (MayBe.eq_of_pure hrun)
  exact ⟨h, hs⟩

theorem bind (hr : Keeps r f) (hk : ∀ a, HasBytes (f a) → Keeps (k a) g) :
    Keeps (r >>= k) g := by
  intro s b rest hs hrun
  obtain ⟨⟨a, mid⟩, hfirst, hsecond⟩ := MayBe.exists_of_bind hrun
  obtain ⟨ha, hmid⟩ := hr s a mid hs hfirst
  exact hk a ha mid b rest hmid hsecond

/-- A reader that draws from what it is given brings in no halves. -/
theorem of_draws {P : α → Glyphs → Prop}
    (h : ∀ source, Draws source [] r P)
    (hP : ∀ a t, P a t → HasBytes t → HasBytes (f a)) : Keeps r f := by
  intro s a rest hs hrun
  obtain ⟨t, ht, hmade⟩ := h s s a rest (.refl s) hrun
  have hboth : HasBytes (t ++ rest) := hs.of_madeOf hmade
  obtain ⟨hyielded, hleft⟩ := HasBytes.append_iff.mp hboth
  exact ⟨hP a t ht hyielded, hleft⟩

theorem many {step : StateT Glyphs m (Option α)}
    (hstep : Keeps step fun found => (found.map f).getD []) :
    Keeps (Email.many step) (List.flatMap f) := by
  intro s
  induction hlength : s.length using Nat.strongRecOn generalizing s with
  | ind n ih =>
      intro as rest hs hrun
      rw [Email.many] at hrun
      obtain ⟨⟨found, mid⟩, hfirst, hsecond⟩ := MayBe.exists_of_bind hrun
      obtain ⟨hfound, hmid⟩ := hstep s found mid hs hfirst
      cases found with
      | none =>
          obtain ⟨rfl, rfl⟩ := Prod.mk.inj (MayBe.eq_of_pure hsecond)
          exact ⟨.nil, hmid⟩
      | some a =>
          dsimp only at hsecond
          split at hsecond
          · next hshorter =>
            obtain ⟨⟨more, last⟩, hmany, hend⟩ := MayBe.exists_of_bind hsecond
            obtain ⟨rfl, rfl⟩ := Prod.mk.inj (MayBe.eq_of_pure hend)
            obtain ⟨hmore, hrest⟩ :=
              ih mid.length (by omega) mid rfl more rest hmid hmany
            exact ⟨hfound.append hmore, hrest⟩
          · obtain ⟨rfl, rfl⟩ := Prod.mk.inj (MayBe.eq_of_pure hsecond)
            exact ⟨by simpa using hfound, hmid⟩

end Steps

section Readers

variable {α β : Type} {r r' : Reader α} {f : α → Glyphs} {g : β → Glyphs}

theorem orElse (hr : Keeps r f) (hr' : Keeps r' f) : Keeps (r.orElse r') f := by
  intro s a rest hs hrun
  have hrun : r.orElse r' s = .ok (a, rest) := hrun
  unfold Reader.orElse at hrun
  split at hrun
  · exact hr' s a rest hs hrun
  · exact hr s a rest hs hrun

theorem map {k : α → β} (hr : Keeps r f)
    (h : ∀ a, HasBytes (f a) → HasBytes (g (k a))) : Keeps (k <$> r) g := by
  rw [map_eq_pure_bind]
  exact hr.bind fun a ha => .pure (h a ha)

/-- What stops a reader in one case need not be looked at in the other one. -/
theorem guard {b : Bool} {stop : Stop} {k : PUnit → Reader β}
    (hk : Keeps (k ⟨⟩) g) :
    Keeps (if b = true then (throw stop : Reader PUnit) >>= k else k ⟨⟩) g := by
  cases b with
  | true =>
      intro s a rest _ hrun
      cases hrun
  | false => exact hk

end Readers

end Keeps

/-- The glyphs of a word, as it is written and as it says. -/
def Word.glyphs (w : Word) : Glyphs := w.written ++ w.value

/-- The glyphs of a domain, as it is written and as it says. -/
def Domain.glyphs (d : Domain) : Glyphs := d.written ++ d.value

/-- Looking at a header and leaving out some of it. -/
theorem keeps_of_anything {α : Type} {r : Reader α}
    (h : ∀ source, Draws source [] r Anything) : Keeps r fun _ => [] :=
  .of_draws h fun _ _ _ _ => .nil

theorem keeps_readGap? : Keeps readGap? (·.getD []) :=
  .of_draws (fun _ => draws_readGap?) fun _ _ h ht => ht.of_madeOf h

/-- What a gap says are spaces. -/
theorem hasBytes_gapValue (gap : Option Glyphs) : HasBytes (gapValue gap) :=
  HasBytes.nil.of_madeOf (madeOf_gapValue gap [])

theorem keeps_readEncoded :
    Keeps readEncoded fun core => core.written ++ core.value := by
  intro s core rest hs hrun
  cases hread : readEncodedWord? s with
  | none =>
      have hstop : readEncoded s = .error .mismatch := by
        unfold readEncoded
        simp only [bind, StateT.bind, get, getThe, MonadStateOf.get, StateT.get,
          pure, Except.pure, Except.bind, hread]
        rfl
      cases hstop.symm.trans hrun
  | some out =>
      obtain ⟨word, left⟩ := out
      obtain ⟨hword, hend⟩ := hasBytes_readEncodedWord? hread
      have hout : readEncoded s =
          .ok (⟨word, collapse word, word.isEmpty⟩, left) := by
        unfold readEncoded
        simp only [bind, StateT.bind, get, getThe, MonadStateOf.get, StateT.get,
          pure, Except.pure, Except.bind, hread]
        rfl
      obtain ⟨rfl, rfl⟩ := Prod.mk.inj (Except.ok.inj (hout.symm.trans hrun))
      refine ⟨hword.append fun g hg => ?_, hs.of_suffix hend⟩
      rcases mem_collapse hg with rfl | hg
      · rfl
      · exact hword g hg

/-- A word with gaps has bytes if what is between them has. -/
theorem Keeps.withGaps {core : Reader Core}
    (h : Keeps core fun core => core.written ++ core.value) :
    Keeps (Email.withGaps core) Word.glyphs := by
  unfold Email.withGaps
  refine keeps_readGap?.bind fun before hbefore => h.bind fun core hcore => ?_
  refine keeps_readGap?.bind fun after hafter => .pure ?_
  obtain ⟨hwritten, hvalue⟩ := HasBytes.append_iff.mp hcore
  exact ((hbefore.append hwritten).append hafter).append
    (((hasBytes_gapValue _).append hvalue).append (hasBytes_gapValue _))

theorem keeps_atoms {r : Reader Core}
    (h : ∀ source, Draws source [] r Core.IsOf) :
    Keeps r fun core => core.written ++ core.value :=
  .of_draws h fun _ _ hcore ht =>
    (ht.of_madeOf hcore.1).append (ht.of_madeOf hcore.2)

theorem keeps_readAtom : Keeps readAtom Word.glyphs :=
  .withGaps (keeps_readEncoded.orElse (keeps_atoms fun _ => draws_readAtomText))

theorem keeps_readDotAtom : Keeps readDotAtom Word.glyphs :=
  .withGaps
    (keeps_readEncoded.orElse (keeps_atoms fun _ => draws_readDotAtomText))

theorem keeps_readLabels : Keeps readLabels (List.flatMap Word.glyphs) := by
  refine .many ((keeps_of_anything fun _ => .skipIf _).bind fun found _ => ?_)
  cases found with
  | true => exact keeps_readAtom.bind fun w hw => .pure hw
  | false => exact .pure .nil

/-- A domain with further labels has bytes if it and the labels have. -/
theorem hasBytes_foldl {d : Domain} {labels : List Word}
    (hd : HasBytes d.glyphs) (hlabels : HasBytes (labels.flatMap Word.glyphs)) :
    HasBytes (labels.foldl (fun d w => ({ d with
      written := d.written ++ [.char '.'],
      value := d.value ++ [.char '.'] } : Domain).append w) d).glyphs := by
  have hpoint : HasBytes [.char '.'] := HasBytes.nil.cons '.'
  induction labels generalizing d with
  | nil => exact hd
  | cons w rest ih =>
      obtain ⟨hw, hrest⟩ := HasBytes.append_iff.mp hlabels
      obtain ⟨hwritten, hvalue⟩ := HasBytes.append_iff.mp hd
      obtain ⟨hwordWritten, hwordValue⟩ := HasBytes.append_iff.mp hw
      rw [List.foldl_cons]
      refine ih (.append ?_ ?_) hrest
      · exact (hwritten.append hpoint).append hwordWritten
      · exact (hvalue.append hpoint).append hwordValue

theorem keeps_readDomain : Keeps readDomain Domain.glyphs := by
  have hliteral : Keeps readLiteral Domain.glyphs :=
    .of_draws (fun _ => draws_readLiteral) fun _ _ hd ht =>
      (ht.of_madeOf hd.1).append (ht.of_madeOf hd.2)
  unfold readDomain
  refine (keeps_of_anything fun _ => .atEnd).bind fun _ _ => .guard ?_
  refine keeps_readGap?.bind fun before hbefore => ?_
  refine (keeps_of_anything fun _ => .nextIs _).bind fun found _ => ?_
  have hlead {d : Domain} (hd : HasBytes d.glyphs) : HasBytes ({ d with
      written := before.getD [] ++ d.written,
      value := gapValue before ++ d.value } : Domain).glyphs := by
    obtain ⟨hwritten, hvalue⟩ := HasBytes.append_iff.mp hd
    exact (hbefore.append hwritten).append
      ((hasBytes_gapValue before).append hvalue)
  cases found with
  | true => exact hliteral.bind fun d hd => .pure (hlead hd)
  | false =>
      refine (keeps_readDotAtom.orElse keeps_readAtom).bind
        fun first hfirst => ?_
      refine (keeps_of_anything fun _ => .nextIs _).bind fun _ _ => .guard ?_
      refine keeps_readLabels.bind fun labels hlabels => .pure ?_
      exact hasBytes_foldl
        (hlead (d := ⟨first.written, first.value, false⟩) hfirst)
        hlabels

/-! ## Message ids -/

theorem keeps_readMessageId : Keeps readMessageId id := by
  have hskim {c : Char} : Keeps (Reader.expect c) fun _ => [] :=
    keeps_of_anything fun _ => .expect c
  have hdot : Keeps readDotAtomText fun core => core.written ++ core.value :=
    keeps_atoms fun _ => draws_readDotAtomText
  have htight : Keeps readTightLiteral id :=
    .of_draws (fun _ => draws_readTightLiteral) fun _ _ h ht => ht.of_madeOf h
  have hdomain : Keeps readWrittenDomain id :=
    keeps_readDomain.bind fun d hd =>
      .guard (.pure (HasBytes.append_iff.mp hd).1)
  have hatom : Keeps (Core.written <$> readDotAtomText) id :=
    hdot.map fun _ h => (HasBytes.append_iff.mp h).1
  have hright : Keeps ((Core.written <$> readDotAtomText).orElse
      (readTightLiteral.orElse readWrittenDomain)) id :=
    hatom.orElse (htight.orElse hdomain)
  unfold readMessageId
  refine hskim.bind fun _ _ => hdot.bind fun left hleft =>
    hskim.bind fun _ _ => ?_
  refine hright.bind fun right hright => ?_
  refine (keeps_of_anything fun _ => .skipIf _).bind fun _ _ => ?_
  refine keeps_readGap?.bind fun gap hgap => .pure ?_
  have hfront :=
    ((HasBytes.append_iff.mp hleft).1.cons '<').append (hright.cons '@')
  exact hfront.append (hgap.cons '>')

/-! ## Free text -/

theorem keeps_freePiece :
    Keeps freePiece fun piece => (piece.map Piece.glyphs).getD [] := by
  intro s piece rest hs hrun
  have hrun : (piece, rest) = freePiece s := hrun
  unfold freePiece at hrun
  cases s with
  | nil =>
      obtain ⟨rfl, rfl⟩ := Prod.mk.inj hrun
      exact ⟨.nil, .nil⟩
  | cons g s =>
      dsimp only at hrun
      split at hrun
      · rw [List.span_eq_takeWhile_dropWhile] at hrun
        obtain ⟨rfl, rfl⟩ := Prod.mk.inj hrun
        refine ⟨fun x hx => hs x ?_, fun x hx => hs x ?_⟩
        · exact (List.takeWhile_prefix _).subset hx
        · exact (List.dropWhile_suffix _).subset hx
      · split at hrun
        · next word left hread =>
          obtain ⟨rfl, rfl⟩ := Prod.mk.inj hrun
          obtain ⟨hword, hend⟩ := hasBytes_readEncodedWord? hread
          exact ⟨hword, hs.of_suffix hend⟩
        · obtain ⟨rfl, rfl⟩ := Prod.mk.inj hrun
          have hbegins : (g :: s).takeWhile (!·.isIn isSpace) <+: g :: s :=
            List.takeWhile_prefix _
          refine ⟨fun x hx => hs x ?_, hs.of_suffix (List.drop_suffix _ _)⟩
          dsimp only [Option.map_some, Option.getD_some, Piece.glyphs] at hx
          split at hx
          · exact ((beforeWord_begins _).trans hbegins).subset hx
          · exact hbegins.subset hx

/-- A free text has bytes if the text that it is read from has. -/
theorem hasBytes_readFreeText (h : HasBytes s) : HasBytes (readFreeText s) := by
  obtain ⟨hpieces, -⟩ := Keeps.many keeps_freePiece s _ _ h rfl
  exact fun g hg => hpieces g ((join_sublist _).subset hg)

/-- The text of a message id has bytes if the header has. -/
theorem hasBytes_idText (h : HasBytes s) : HasBytes (told id (idText s)) := by
  unfold idText
  split
  · next text rest hread => exact (keeps_readMessageId s text rest h hread).1
  · exact .nil
  · exact hasBytes_readFreeText h

end Notices.Email
