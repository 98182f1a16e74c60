import Mathlib.Data.List.Flatten
import Mathlib.Data.List.TakeDrop
import Mathlib.Data.List.TakeWhile
import Notices.Proofs.Reading

/-!
# What is read of words

Gaps, words, quotes and phrases are drawn from the header that they are
read in, if it cannot come to hold an encoded word.  A free text that
holds none is read as it is.

* `draws_readGap?`, `draws_readWord` and `draws_readPhrase` say so of the
  readers, each from the ones before it.
* `madeOf_nameOf` says that a name is made of its phrase.
* `readFreeText_of_noWord` is about free texts.
-/

namespace Notices.Email

/-! ## Gaps -/

/-- The inside of a comment and what is behind it are made of the comment. -/
theorem madeOf_comment (depth : Nat) (s : Glyphs) :
    MadeOf ((comment depth s).1 ++ (comment depth s).2) s := by
  fun_induction comment depth s with
  | case1 depth =>
      refine .of_marks fun g hg => ?_
      rw [List.append_nil] at hg
      rw [List.eq_of_mem_replicate hg]
      decide
  | case2 depth g rest hspace ih => exact ih.skip _
  | case3 depth g rest hspace inside after heq hkept ih =>
      rw [heq] at ih
      exact (ih.cons g).cons _
  | case4 depth g rest hspace inside after heq hdropped ih =>
      rw [heq] at ih
      exact (ih.cons g).skip _
  | case5 rest _ => exact .refl _
  | case6 rest depth inside after heq _ ih =>
      rw [heq] at ih
      exact ih.cons _
  | case7 depth rest _ _ ih => exact ih.skip _
  | case8 depth g rest _ _ _ inside after heq ih =>
      rw [heq] at ih
      exact ih.cons g

/-- A beginning of a text and what is behind it are the text. -/
theorem madeOf_span {p : Glyph → Bool} {s front rest : Glyphs}
    (h : s.span p = (front, rest)) :
    MadeOf (front ++ rest) s := by
  rw [List.span_eq_takeWhile_dropWhile] at h
  obtain ⟨rfl, rfl⟩ := Prod.mk.inj h
  rw [List.takeWhile_append_dropWhile]
  exact .refl s

section Words

variable {source : Glyphs}

theorem draws_gapPiece : Draws source [] gapPiece (IfAny (Taking id)) := by
  refine .of_apart fun s _ => ?_
  unfold gapPiece
  cases s with
  | nil => exact ⟨[], trivial, .refl _⟩
  | cons g rest =>
      dsimp only
      split
      · generalize hspan : List.span (·.isIn Text.isBlank) (g :: rest) = parts
        obtain ⟨blanks, left⟩ := parts
        exact ⟨blanks, .refl _, madeOf_span hspan⟩
      · split
        · exact ⟨g :: (comment 0 rest).1, .refl _,
            (madeOf_comment 0 rest).cons g⟩
        · exact ⟨[], trivial, .refl _⟩

theorem draws_readGap : Draws source [] readGap (Taking id) := by
  refine .modifyGet fun s hs => ?_
  obtain ⟨t, heach, hrest⟩ := Draws.many draws_gapPiece s _ _ hs rfl
  refine ⟨t, ?_, hrest⟩
  have hflat : MadeOf ((many gapPiece s).1.flatMap id) t :=
    heach.flatMap fun _ _ h => h
  rw [List.flatMap_id] at hflat
  exact hflat

/-- The glyphs of a gap, if there is one. -/
theorem draws_readGap? : Draws source [] readGap? (Taking (·.getD [])) := by
  unfold readGap?
  refine .skim (.nextIs _) fun found => ?_
  cases found with
  | true => exact draws_readGap.bind fun gap t hgap => .pure hgap
  | false => exact .pure (.nil _)

/-- What a gap says has no substance. -/
theorem madeOf_gapValue (gap : Option Glyphs) (t : Glyphs) :
    MadeOf (gapValue gap) t := by
  refine .of_marks fun g hg => ?_
  cases gap with
  | none => cases hg
  | some written =>
      obtain rfl := List.mem_singleton.mp hg
      decide

/-! ## Words -/

/-- A word without its gaps is of a text: how it is written and what
it says are made of it. -/
def Core.IsOf (c : Core) (t : Glyphs) : Prop :=
  MadeOf c.written t ∧ MadeOf c.value t

/-- A word is of a text: how it is written and what it says are made of it. -/
def Word.IsOf (w : Word) (t : Glyphs) : Prop :=
  MadeOf w.written t ∧ MadeOf w.value t

/-- To make one space of blanks brings in spaces at most. -/
theorem mem_collapse {g : Glyph} {s : Glyphs} (h : g ∈ collapse s) :
    g = .char ' ' ∨ g ∈ s := by
  fun_induction collapse s with
  | case1 => exact .inr h
  | case2 g' rest _ ih =>
      rcases List.mem_cons.mp h with rfl | h
      · exact .inl rfl
      · exact (ih h).imp_right fun hmem =>
          List.mem_cons_of_mem _ ((List.dropWhile_sublist _).subset hmem)
  | case3 g' rest _ ih =>
      rcases List.mem_cons.mp h with rfl | h
      · exact .inr List.mem_cons_self
      · exact (ih h).imp_right (List.mem_cons_of_mem _)

/-- What is made of a text without an encoded word is not read as one. -/
theorem draws_readEncoded (hplain : ¬ MayHoldWord source)
    {P : Core → Glyphs → Prop} :
    Draws source [] readEncoded P := by
  intro s core rest hs hrun
  have hnone : readEncodedWord? s = none := readEncodedWord?_of_madeOf hplain hs
  have hstop : readEncoded s = .error .mismatch := by
    unfold readEncoded
    simp only [bind, StateT.bind, get, getThe, MonadStateOf.get, StateT.get,
      pure, Except.pure, Except.bind, hnone]
    rfl
  have hboth := hstop.symm.trans hrun
  cases hboth

/-- A run of glyphs that passes a test is read as it is written. -/
theorem draws_run (p : Glyph → Bool) (isWrong : Glyphs → Bool) :
    Draws source [] (do
      let (text, rest) := (← get).span p
      if isWrong text then Reader.mismatch
      set rest
      return { written := text, value := text } : Reader Core) Core.IsOf := by
  intro s core rest _ hrun
  have hrun : (if isWrong (s.span p).1 = true then .error .mismatch
      else .ok ({ written := (s.span p).1, value := (s.span p).1 },
        (s.span p).2) : Except Stop (Core × Glyphs)) =
      .ok (core, rest) := by
    rw [← hrun]
    simp only [bind, StateT.bind, get, getThe, MonadStateOf.get, StateT.get,
      pure, Except.pure, Except.bind]
    cases isWrong (s.span p).1 <;> rfl
  split at hrun
  · cases hrun
  · obtain ⟨rfl, rfl⟩ := Prod.mk.inj (Except.ok.inj hrun)
    exact ⟨(s.span p).1, ⟨.refl _, .refl _⟩, madeOf_span rfl⟩

theorem draws_readAtomText : Draws source [] readAtomText Core.IsOf :=
  draws_run _ List.isEmpty

theorem draws_readDotAtomText : Draws source [] readDotAtomText Core.IsOf :=
  draws_run _ fun text => text.isEmpty || hasEmptyLabel text

/-- A word with gaps is of the text that the gaps and what is between them are
of. -/
theorem Draws.withGaps {core : Reader Core}
    (h : Draws source [] core Core.IsOf) :
    Draws source [] (Email.withGaps core) Word.IsOf := by
  unfold Email.withGaps
  refine draws_readGap?.bind fun before t₁ hbefore => ?_
  refine h.next fun core t₂ hcore => ?_
  refine draws_readGap?.next fun after t₃ hafter => .pure ?_
  exact ⟨(hbefore.append hcore.1).append hafter,
    ((madeOf_gapValue before t₁).append hcore.2).append
      (madeOf_gapValue after t₃)⟩

section Plain

variable (hplain : ¬ MayHoldWord source)

include hplain

theorem draws_readAtom : Draws source [] readAtom Word.IsOf :=
  .withGaps ((draws_readEncoded hplain).orElse draws_readAtomText)

theorem draws_readDotAtom : Draws source [] readDotAtom Word.IsOf :=
  .withGaps ((draws_readEncoded hplain).orElse draws_readDotAtomText)

end Plain

/-! ## Quotes -/

/-- What stands before a space or a character of a class, and the rest,
are made of the text. -/
theorem madeOf_splitUnescaped (ends : Char → Bool) (s : Glyphs) :
    MadeOf ((splitUnescaped ends s).1 ++ (splitUnescaped ends s).2) s := by
  fun_induction splitUnescaped ends s with
  | case1 => exact .refl _
  | case2 g rest _ => exact (MadeOf.refl (g :: rest)).skip _
  | case3 g rest _ inside after heq ih =>
      rw [heq] at ih
      exact (ih.cons g).skip _
  | case4 rest _ ih => exact ih.skip _
  | case5 g rest _ _ _ => exact .refl _
  | case6 g rest _ _ _ inside after heq ih =>
      rw [heq] at ih
      exact ih.cons g

/-- Backslashes have no substance. -/
theorem madeOf_escapeQuotes (s : Glyphs) : MadeOf (escapeQuotes s) s := by
  unfold escapeQuotes
  induction s with
  | nil => exact .refl _
  | cons g rest ih =>
      rw [List.flatMap_cons]
      split
      · exact (ih.cons g).cons_mark (by decide)
      · exact ih.cons g

/-- Quotes have no substance of their own. -/
theorem madeOf_inQuotes (s : Glyphs) : MadeOf (inQuotes s) s := by
  exact ((madeOf_escapeQuotes s).cons_mark (by decide)).append_mark (by decide)

/-- To put pieces together leaves out some blanks at most. -/
theorem join_sublist (pieces : List Piece) :
    (Piece.join pieces).Sublist (pieces.flatMap Piece.glyphs) := by
  fun_induction Piece.join pieces with
  | case1 s t next tail ih =>
      rw [List.flatMap_cons, List.flatMap_cons]
      exact (List.Sublist.refl s).append
        (ih.trans (List.sublist_append_right t _))
  | case2 s t rest _ ih =>
      rw [List.flatMap_cons, List.flatMap_cons, ← List.append_assoc]
      exact (List.Sublist.refl (s ++ t)).append ih
  | case3 piece rest _ ih =>
      rw [List.flatMap_cons]
      exact (List.Sublist.refl piece.glyphs).append ih
  | case4 => exact .refl _

section Plain

variable (hplain : ¬ MayHoldWord source)

include hplain

theorem draws_quotedPiece :
    Draws source [] quotedPiece (IfAny (Taking Piece.glyphs)) := by
  refine .of_apart fun s hs => ?_
  have hnone := readEncodedWord?_of_madeOf hplain hs
  unfold quotedPiece
  cases s with
  | nil => exact ⟨[], trivial, .refl _⟩
  | cons g rest =>
      dsimp only
      split
      · exact ⟨[], trivial, .refl _⟩
      · split
        · generalize hspan : List.span (·.isIn Text.isBlank) (g :: rest) = parts
          obtain ⟨blanks, left⟩ := parts
          exact ⟨blanks, .refl _, madeOf_span hspan⟩
        · rw [hnone]
          exact ⟨_, .refl _, madeOf_splitUnescaped _ _⟩

theorem draws_readQuoted : Draws source [] readQuoted Core.IsOf := by
  unfold readQuoted
  refine .skim (.expect _) fun _ => ?_
  have hpieces : Draws source []
      (modifyGet splitQuoted : Reader (List Piece)) (Taking Piece.join) := by
    refine .modifyGet fun s hs => ?_
    obtain ⟨t, heach, hrest⟩ :=
      Draws.many (draws_quotedPiece hplain) s _ _ hs rfl
    have hflat : MadeOf ((many quotedPiece s).1.flatMap Piece.glyphs) t :=
      heach.flatMap fun _ _ h => h
    have hdropped : MadeOf (t ++ (many quotedPiece s).2.drop 1) s :=
      ((MadeOf.of_sublist (List.drop_sublist 1 _)).append_left t).trans hrest
    refine ⟨t, ?_, hdropped⟩
    show MadeOf
        (Piece.join (if s.head? = some (.char '"') then [.plain []]
          else (many quotedPiece s).1)) t
    split
    · exact .nil t
    · exact (MadeOf.of_sublist (join_sublist _)).trans hflat
  exact hpieces.bind fun pieces t hjoin =>
    .pure ⟨(madeOf_inQuotes _).trans hjoin, hjoin⟩

theorem draws_readWord : Draws source [] readWord Word.IsOf := by
  refine .withGaps (.skim (.nextIs _) fun found => ?_)
  cases found with
  | true => exact draws_readQuoted hplain
  | false => exact (draws_readEncoded hplain).orElse draws_readAtomText

/-! ## Phrases -/

theorem draws_readWordOrGap :
    Draws source [] readWordOrGap (Taking Part.value) := by
  refine .orElse ((draws_readWord hplain).map
    fun w t h => h.2) (.skim (.nextIs _) fun found => ?_)
  cases found with
  | true =>
      exact draws_readGap.bind fun gap t _ =>
        .pure (madeOf_gapValue (some gap) t)
  | false => exact .mismatch

theorem draws_readPhrase :
    Draws source [] readPhrase (Taking (List.flatMap Part.value)) := by
  refine (Draws.many ?_).mono fun parts t heach => heach.flatMap fun _ _ h => h
  refine .skim .atEnd fun isOver => ?_
  refine .skim (.nextIs _) fun ends => ?_
  cases isOver || ends with
  | true => exact .pure trivial
  | false =>
      refine .skim (.skipIf _) fun found => ?_
      cases found with
      | true => exact .pure (.of_marks (by decide))
      | false =>
          exact (draws_readWordOrGap hplain).bind fun part t hpart =>
            .pure hpart

end Plain

/-- What a part without its gaps says is made of what it says with them. -/
theorem madeOf_value {w v : Word} (h : v.core = w.core) :
    MadeOf v.value w.value := by
  unfold Word.value
  rw [h]
  exact ((madeOf_gapValue _ _).append (.refl _)).append (madeOf_gapValue _ _)

theorem madeOf_dropGapBefore {phrase parts : List Part}
    (h : dropGapBefore phrase = .ok parts) :
    MadeOf (parts.flatMap Part.value) (phrase.flatMap Part.value) := by
  unfold dropGapBefore at h
  split at h
  · obtain rfl := Except.ok.inj h
    rw [List.flatMap_cons]
    exact .of_sublist (List.sublist_append_right _ _)
  · next w rest =>
    obtain rfl := Except.ok.inj h
    rw [List.flatMap_cons, List.flatMap_cons]
    have hword : MadeOf ({ w with before := none } : Word).value w.value :=
      madeOf_value rfl
    exact hword.append (.refl _)
  · cases h

theorem madeOf_dropGapAfter {phrase parts : List Part}
    (h : dropGapAfter phrase = .ok parts) :
    MadeOf (parts.flatMap Part.value) (phrase.flatMap Part.value) := by
  unfold dropGapAfter at h
  split at h
  · cases h
  · obtain rfl := Except.ok.inj h
    exact .of_sublist ((List.dropLast_sublist phrase).flatMap Part.value)
  · next w hlast =>
    obtain rfl := Except.ok.inj h
    have hphrase : phrase = phrase.dropLast ++ [.word w] := by
      obtain ⟨front, rfl⟩ := List.getLast?_eq_some_iff.mp hlast
      simp
    rw [hphrase, List.dropLast_concat, List.flatMap_append, List.flatMap_append]
    have hword : MadeOf ({ w with after := none } : Word).value w.value :=
      madeOf_value rfl
    refine (MadeOf.refl _).append ?_
    rw [List.flatMap_singleton, List.flatMap_singleton]
    exact hword
  · cases h

/-- A name is made of its phrase. -/
theorem madeOf_nameOf (phrase : List Part) :
    MadeOf (told id (nameOf phrase)) (phrase.flatMap Part.value) := by
  unfold nameOf
  split
  · exact .nil _
  · cases hbefore : dropGapBefore phrase with
    | error e => exact .nil _
    | ok parts =>
        cases hafter : dropGapAfter parts with
        | error e =>
            simp only [bind, Except.bind, hafter]
            exact .nil _
        | ok inner =>
            simp only [bind, Except.bind, hafter]
            exact (madeOf_dropGapAfter hafter).trans
              (madeOf_dropGapBefore hbefore)

end Words

/-! ## Free text -/

/-- Pieces of which none was encoded are put together as they are. -/
theorem join_eq_flatMap {pieces : List Piece}
    (h : ∀ word, Piece.encoded word ∉ pieces) :
    Piece.join pieces = pieces.flatMap Piece.glyphs := by
  fun_induction Piece.join pieces with
  | case1 s => exact absurd List.mem_cons_self (h s)
  | case2 s => exact absurd List.mem_cons_self (h s)
  | case3 piece rest _ ih =>
      rw [List.flatMap_cons,
        ih fun word hmem => h word (List.mem_cons_of_mem _ hmem)]
  | case4 => rfl

/-- The glyphs before what may begin an encoded word begin the text. -/
theorem beforeWord_begins (s : Glyphs) : beforeWord s <+: s := by
  induction s with
  | nil => exact List.prefix_rfl
  | cons g rest ih =>
      unfold beforeWord
      split
      · exact List.nil_prefix
      · exact (List.prefix_cons_inj g).mpr ih

/-- There is something before what may begin an encoded word, unless a text
begins so. -/
theorem beforeWord_ne_nil {g : Glyph} {s : Glyphs}
    (h : (ofText "=?".toList).isPrefixOf (g :: s) = false) :
    beforeWord (g :: s) ≠ [] := by
  unfold beforeWord
  rw [h, if_neg Bool.false_ne_true]
  exact List.cons_ne_nil _ _

/-- Where no encoded word begins, a piece that is no encoded word is taken
off. -/
theorem freePiece_cons {g : Glyph} {s : Glyphs}
    (hnone : readEncodedWord? (g :: s) = none) :
    ∃ piece rest, freePiece (g :: s) = (some piece, rest) ∧
      (∀ word, piece ≠ .encoded word) ∧
      piece.glyphs ≠ [] ∧ piece.glyphs ++ rest = g :: s := by
  unfold freePiece
  dsimp only
  split
  · next hspace =>
    have hblank : g.isIn Text.isBlank = true := by
      cases g with
      | char c =>
          have hc : c = ' ' ∨ c = '\t' := by
            simpa [Glyph.isIn, isSpace] using hspace
          rcases hc with rfl | rfl <;> decide
      | half n => cases hspace
    rw [List.span_eq_takeWhile_dropWhile]
    refine ⟨_, _, rfl, (fun word heq => by cases heq), ?_,
      List.takeWhile_append_dropWhile⟩
    simp [Piece.glyphs, hblank]
  · next hspace =>
    rw [hnone]
    have hspace : g.isIn isSpace = false := by simpa using hspace
    have hrun : (g :: s).takeWhile (!·.isIn isSpace) =
        g :: s.takeWhile (!·.isIn isSpace) := by
      simp [hspace]
    have hbegins : (g :: s).takeWhile (!·.isIn isSpace) <+: g :: s :=
      List.takeWhile_prefix _
    have hword : (ofText "=?".toList).isPrefixOf
        ((g :: s).takeWhile (!·.isIn isSpace)) = true →
        (ofText "=?".toList).isPrefixOf (g :: s) = true := by
      rw [List.isPrefixOf_iff_prefix, List.isPrefixOf_iff_prefix]
      exact fun h => h.trans hbegins
    refine ⟨_, _, rfl, (fun word heq => by cases heq), ?_, ?_⟩
    · -- a run that is cut does not begin with what may begin a word
      dsimp only [Piece.glyphs]
      split
      · next hcut =>
        have hplain : (ofText "=?".toList).isPrefixOf (g :: s) = false := by
          simp only [Bool.and_eq_true, Bool.not_eq_true'] at hcut
          exact hcut.1
        rw [hrun] at hword ⊢
        refine beforeWord_ne_nil (Bool.eq_false_iff.mpr fun h => ?_)
        rw [hword h] at hplain
        cases hplain
      · rw [hrun]
        exact List.cons_ne_nil _ _
    · dsimp only [Piece.glyphs]
      refine (List.prefix_iff_eq_append.mp ?_)
      split
      · exact (beforeWord_begins _).trans hbegins
      · exact hbegins

/-- The pieces of a text without encoded words make it up, and none of them was
encoded. -/
theorem freePieces_of_noWord {s : Glyphs} (hplain : ¬ HoldsWord s) :
    (∀ word, Piece.encoded word ∉ freePieces s) ∧
      (freePieces s).flatMap Piece.glyphs = s := by
  induction hlength : s.length using Nat.strongRecOn generalizing s with
  | ind n ih =>
      cases s with
      | nil =>
          have hempty : freePieces [] = [] := by
            unfold freePieces
            rw [many]
            rfl
          rw [hempty]
          exact ⟨fun _ hmem => (List.not_mem_nil hmem).elim, rfl⟩
      | cons g s =>
          have hnone : readEncodedWord? (g :: s) = none := by
            cases hword : readEncodedWord? (g :: s) with
            | none => rfl
            | some read => exact absurd ⟨_, _, _, List.suffix_rfl, hword⟩ hplain
          obtain ⟨piece, rest, hpiece, hkind, hne, hwhole⟩ :=
            freePiece_cons hnone
          have hshorter : rest.length < (g :: s).length := by
            rw [← hwhole, List.length_append]
            have := List.length_pos_iff.mpr hne
            omega
          have hrest : ¬ HoldsWord rest := by
            rintro ⟨t, word, left, hend, hread⟩
            exact hplain ⟨t, word, left, hend.trans ⟨_, hwhole⟩, hread⟩
          obtain ⟨hkinds, hmore⟩ :=
            ih rest.length (hlength ▸ hshorter) hrest rfl
          have hpieces : freePieces (g :: s) = piece :: freePieces rest := by
            unfold freePieces
            rw [many]
            simp only [hpiece, bind, pure, dif_pos hshorter]
            rfl
          rw [hpieces, List.flatMap_cons, hmore]
          refine ⟨fun word hmem => ?_, hwhole⟩
          rcases List.mem_cons.mp hmem with heq | hmem
          · exact hkind word heq.symm
          · exact hkinds word hmem

/-- A free text without encoded words is read as it is. -/
theorem readFreeText_of_noWord {s : Glyphs} (hplain : ¬ HoldsWord s) :
    readFreeText s = s := by
  obtain ⟨hnone, hwhole⟩ := freePieces_of_noWord hplain
  unfold readFreeText
  rw [join_eq_flatMap hnone, hwhole]

end Notices.Email
