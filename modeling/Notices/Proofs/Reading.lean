import Notices.Email.Message

/-!
# What is read of a header

Reading a header leaves glyphs out and puts marks in: spaces, quotes, brackets,
points and the like.  All else is there in its order, unless an encoded word is
decoded.  Some of what has been read may even be put back in another form and
read again, so this is said of what is read together with what is left.

* `MadeOf` says that a text is made of another one, marks apart.
* `Draws` says that what a reader yields and leaves is made of what it was
  given.  It has one lemma for each way in which readers are put together,
  `Draws.bind` and `Draws.many` first of all.
* `HoldsWord` says which texts hold an encoded word, and `MayHoldWord` which
  ones can come to hold one while they are read.
-/

namespace Notices.Email

/-! ## Texts made of others -/

/-- The marks: the spaces and the characters with a meaning in an address,
but for the colon.  No reading puts a colon in, and it tells where the
name of a group ends. -/
def isMark (c : Char) : Bool := endsAtom c && c != ':'

/-- The glyphs of a text that are no marks. -/
def substance (s : Glyphs) : Glyphs := s.filter (!·.isIn isMark)

/-- A text is made of another one if its substance is found there in
the same order.  Some of the other text may be left out, and marks
may be put in anywhere. -/
def MadeOf (t s : Glyphs) : Prop := (substance t).Sublist (substance s)

section MadeOf

variable {s t u v : Glyphs}

@[simp] theorem substance_nil : substance [] = [] := rfl

@[simp] theorem substance_append (s t : Glyphs) :
    substance (s ++ t) = substance s ++ substance t :=
  List.filter_append ..

/-- A mark has no substance. -/
theorem substance_cons_mark {g : Glyph} (hg : g.isIn isMark = true)
    (s : Glyphs) :
    substance (g :: s) = substance s := by
  simp [substance, hg]

/-- What is no mark is substance. -/
theorem substance_cons_of_not_mark {g : Glyph} (hg : g.isIn isMark = false)
    (s : Glyphs) :
    substance (g :: s) = g :: substance s := by
  simp [substance, hg]

namespace MadeOf

theorem refl (s : Glyphs) : MadeOf s s := List.Sublist.refl _

theorem trans (h : MadeOf t s) (h' : MadeOf s u) : MadeOf t u :=
  List.Sublist.trans h h'

/-- A text of which some is left out is made of that text. -/
theorem of_sublist (h : t.Sublist s) : MadeOf t s := h.filter _

/-- Texts with the same substance are made of each other. -/
theorem of_eq (h : substance t = substance s) : MadeOf t s := by
  unfold MadeOf
  exact h ▸ List.Sublist.refl (substance t)

theorem append (h : MadeOf t s) (h' : MadeOf u v) :
    MadeOf (t ++ u) (s ++ v) := by
  unfold MadeOf
  rw [substance_append, substance_append]
  exact List.Sublist.append h h'

/-- Behind the same beginning a text is made of another one if it is. -/
theorem append_left (h : MadeOf t s) (front : Glyphs) :
    MadeOf (front ++ t) (front ++ s) :=
  (refl front).append h

/-- Marks are made of nothing. -/
theorem of_marks (h : ∀ g ∈ t, g.isIn isMark = true) : MadeOf t s := by
  have hnone : substance t = [] := by simpa [substance] using h
  unfold MadeOf
  rw [hnone]
  exact List.nil_sublist _

theorem nil (s : Glyphs) : MadeOf [] s := List.nil_sublist _

/-- A mark can be put in at the front. -/
theorem cons_mark {g : Glyph} (hg : g.isIn isMark = true) (h : MadeOf t s) :
    MadeOf (g :: t) s := by
  unfold MadeOf
  rw [substance_cons_mark hg]
  exact h

/-- A mark can be put in at the end. -/
theorem append_mark {g : Glyph} (hg : g.isIn isMark = true) (h : MadeOf t s) :
    MadeOf (t ++ [g]) s := by
  have hboth := h.append (of_marks (t := [g]) (s := []) (by simpa using hg))
  rwa [List.append_nil] at hboth

/-- Both begin with the same glyph. -/
theorem cons (g : Glyph) (h : MadeOf t s) : MadeOf (g :: t) (g :: s) :=
  h.append_left [g]

/-- A glyph of the text may be left out. -/
theorem skip (g : Glyph) (h : MadeOf t s) : MadeOf t (g :: s) :=
  h.trans (of_sublist (List.sublist_cons_self g s))

/-- What is made of a text is made of it with something before it. -/
theorem extend_left (h : MadeOf t s) (front : Glyphs) : MadeOf t (front ++ s) :=
  (nil front).append h

/-- What is made of a text is made of it with something behind it. -/
theorem extend_right (h : MadeOf t s) (rest : Glyphs) : MadeOf t (s ++ rest) :=
  h.trans (of_sublist (List.sublist_append_left s rest))

/-- What is no mark is found in the text that it is made of. -/
theorem mem {g : Glyph} (h : MadeOf t s) (hg : g ∈ t)
    (hmark : g.isIn isMark = false) : g ∈ s := by
  have hsubstance : g ∈ substance t := List.mem_filter.mpr ⟨hg, by simp [hmark]⟩
  exact (List.mem_filter.mp (h.subset hsubstance)).1

/-- Glyphs that are no marks are where the text was made of, in their order. -/
theorem sublist (h : MadeOf t s) (hmark : ∀ g ∈ t, g.isIn isMark = false) :
    t.Sublist s := by
  have hsubstance : substance t = t :=
    List.filter_eq_self.mpr fun g hg => by simp [hmark g hg]
  unfold MadeOf at h
  rw [hsubstance] at h
  exact h.trans List.filter_sublist

end MadeOf

end MadeOf

/-- A text holds an encoded word if one begins somewhere in it. -/
def HoldsWord (s : Glyphs) : Prop :=
  ∃ t word rest, t <:+ s ∧ readEncodedWord? t = some (word, rest)

/-- A text may hold an encoded word: with some glyphs left out and marks put
in it begins with one. -/
def MayHoldWord (s : Glyphs) : Prop :=
  ∃ t word rest, MadeOf t s ∧ readEncodedWord? t = some (word, rest)

/-- Nothing that is made of a text without an encoded word begins with one. -/
theorem readEncodedWord?_of_madeOf {source s : Glyphs}
    (hplain : ¬ MayHoldWord source) (h : MadeOf s source) :
    readEncodedWord? s = none := by
  cases hword : readEncodedWord? s with
  | none => rfl
  | some read => exact absurd ⟨s, read.1, read.2, h, hword⟩ hplain

/-- A text that holds an encoded word may do so. -/
theorem HoldsWord.may {s : Glyphs} (h : HoldsWord s) : MayHoldWord s := by
  obtain ⟨t, word, rest, hend, hread⟩ := h
  exact ⟨t, word, rest, .of_sublist hend.sublist, hread⟩

/-- A text without an equals sign holds no encoded word. -/
theorem not_mayHoldWord_of_notMem {s : Glyphs} (h : Glyph.char '=' ∉ s) :
    ¬ MayHoldWord s := by
  rintro ⟨t, word, rest, hmade, hread⟩
  have hmem : Glyph.char '=' ∈ t := by
    unfold readEncodedWord? splitWord? at hread
    split at hread
    · exact List.mem_cons_self
    · cases hread
  exact h (hmade.mem hmem (by decide))

/-! ## What a reader draws from -/

/-- A sequence that comes to something does so through its first step. -/
theorem exists_of_bind_eq_ok {ε α β : Type} {x : Except ε α}
    {f : α → Except ε β} {b : β} (h : x >>= f = .ok b) :
    ∃ a, x = .ok a ∧ f a = .ok b := by
  cases x with
  | ok a => exact ⟨a, rfl, h⟩
  | error e => cases h

/-- What a step of a reading may come to.  Nothing is said of steps that
fail. -/
class MayBe (m : Type → Type) [Monad m] where
  mayBe {α : Type} : m α → α → Prop
  eq_of_pure {α : Type} {a b : α} : mayBe (pure a) b → b = a
  exists_of_bind {α β : Type} {x : m α} {f : α → m β} {b : β} :
    mayBe (x >>= f) b → ∃ a, mayBe x a ∧ mayBe (f a) b

instance : MayBe Id where
  mayBe x a := a = x
  eq_of_pure h := h
  exists_of_bind h := ⟨_, rfl, h⟩

instance {ε : Type} : MayBe (Except ε) where
  mayBe x a := x = .ok a
  eq_of_pure h := (Except.ok.inj h).symm
  exists_of_bind h := exists_of_bind_eq_ok h

/-- A reader draws from what it is given, behind a text that was read before:
what it yields has to do with some text, and that text and what is left are made
of the earlier text and of what it was given.  All of this need only hold of
what is itself made of a source. -/
def Draws {m : Type → Type} [Monad m] [MayBe m] {α : Type}
    (source front : Glyphs) (r : StateT Glyphs m α) (P : α → Glyphs → Prop) :
    Prop :=
  ∀ s a rest, MadeOf (front ++ s) source → MayBe.mayBe (r s) (a, rest) →
    ∃ t, P a t ∧ MadeOf (t ++ rest) (front ++ s)

/-- Nothing is said of what is yielded. -/
def Anything {α : Type} : α → Glyphs → Prop := fun _ _ => True

/-- The glyphs of what is yielded are made of the text. -/
def Taking {α : Type} (f : α → Glyphs) : α → Glyphs → Prop :=
  fun a t => MadeOf (f a) t

/-- The glyphs of what a reading says, if that can be told. -/
def told {α : Type} (f : α → Glyphs) : Except MailError α → Glyphs
  | .ok a => f a
  | .error _ => []

/-- What is said of what is yielded, if anything is. -/
def IfAny {α : Type} (P : α → Glyphs → Prop) : Option α → Glyphs → Prop
  | none, _ => True
  | some a, t => P a t

/-- What is said of each item is said of a list, whose items have to do with one
text after the other. -/
def Each {α : Type} (P : α → Glyphs → Prop) : List α → Glyphs → Prop
  | [], _ => True
  | a :: rest, t => ∃ t₁ t₂, t = t₁ ++ t₂ ∧ P a t₁ ∧ Each P rest t₂

/-- If the glyphs of each item are made of its text, those of all of them
are. -/
theorem Each.flatMap {α : Type} {P : α → Glyphs → Prop} {f : α → Glyphs}
    (h : ∀ a t, P a t → MadeOf (f a) t) {as : List α} {t : Glyphs}
    (has : Each P as t) : MadeOf (as.flatMap f) t := by
  induction as generalizing t with
  | nil => exact .nil t
  | cons a rest ih =>
      obtain ⟨t₁, t₂, rfl, ha, hrest⟩ := has
      rw [List.flatMap_cons]
      exact (h a t₁ ha).append (ih hrest)

/-- If the glyphs of each item that there is are made of its text,
those of all of them are. -/
theorem Each.filterMap {α : Type} {P : α → Glyphs → Prop} {f : α → Glyphs}
    (h : ∀ a t, P a t → MadeOf (f a) t) {items : List (Option α)} {t : Glyphs}
    (hitems : Each (IfAny P) items t) :
    MadeOf ((items.filterMap id).flatMap f) t := by
  induction items generalizing t with
  | nil => exact .nil t
  | cons item rest ih =>
      obtain ⟨t₁, t₂, rfl, hitem, hrest⟩ := hitems
      cases item with
      | none => exact (ih hrest).extend_left t₁
      | some a =>
          have hkept : (some a :: rest).filterMap id = a :: rest.filterMap id :=
            List.filterMap_cons_some rfl
          rw [hkept, List.flatMap_cons]
          exact (h a t₁ hitem).append (ih hrest)

/-- What holds of each item that there is, whatever its text, holds of all of
them. -/
theorem Each.forall_filterMap {α : Type} {P : α → Glyphs → Prop} {Q : α → Prop}
    (h : ∀ a t, P a t → Q a) {items : List (Option α)} {t : Glyphs}
    (hitems : Each (IfAny P) items t) : ∀ a ∈ items.filterMap id, Q a := by
  induction items generalizing t with
  | nil => exact fun _ ha => (List.not_mem_nil ha).elim
  | cons item rest ih =>
      obtain ⟨t₁, t₂, rfl, hitem, hrest⟩ := hitems
      cases item with
      | none => exact ih hrest
      | some a =>
          intro b hb
          rcases List.mem_cons.mp hb with rfl | hb
          · exact h b t₁ hitem
          · exact ih hrest b hb

namespace Draws

variable {m : Type → Type} [Monad m] [MayBe m] {α β : Type}
    {source front : Glyphs}
variable {r : StateT Glyphs m α} {k : α → StateT Glyphs m β}
    {P : α → Glyphs → Prop} {Q : β → Glyphs → Prop}

/-- What is given to a reader behind an earlier text is made of the source. -/
theorem behind {s : Glyphs} (h : MadeOf (front ++ s) source) :
    MadeOf ([] ++ s) source :=
  (MadeOf.of_sublist (List.sublist_append_right front s)).trans h

theorem pure {a : α} (h : P a front) :
    Draws source front (Pure.pure a : StateT Glyphs m α) P := by
  intro s b rest _ hrun
  obtain ⟨rfl, rfl⟩ := Prod.mk.inj (MayBe.eq_of_pure hrun)
  exact ⟨front, h, .refl _⟩

/-- A second reader goes on behind the text that the first one yields. -/
theorem bind (hr : Draws source front r P)
    (hk : ∀ a t, P a t → Draws source t (k a) Q) :
    Draws source front (r >>= k) Q := by
  intro s b rest hs hrun
  obtain ⟨⟨a, mid⟩, hfirst, hsecond⟩ := MayBe.exists_of_bind hrun
  obtain ⟨t, hP, hmid⟩ := hr s a mid hs hfirst
  obtain ⟨u, hQ, hrest⟩ := hk a t hP mid b rest (hmid.trans hs) hsecond
  exact ⟨u, hQ, hrest.trans hmid⟩

/-- A second reader goes on behind the earlier text and the one that the first
yields. -/
theorem next (hr : Draws source [] r P)
    (hk : ∀ a t, P a t → Draws source (front ++ t) (k a) Q) :
    Draws source front (r >>= k) Q := by
  intro s b rest hs hrun
  obtain ⟨⟨a, mid⟩, hfirst, hsecond⟩ := MayBe.exists_of_bind hrun
  obtain ⟨t, hP, hmid⟩ := hr s a mid (behind hs) hfirst
  have hboth : MadeOf (front ++ t ++ mid) (front ++ s) := by
    rw [List.append_assoc]
    exact hmid.append_left front
  obtain ⟨u, hQ, hrest⟩ := hk a t hP mid b rest (hboth.trans hs) hsecond
  exact ⟨u, hQ, hrest.trans hboth⟩

/-- What the first of two readers yields may be left out. -/
theorem skim (hr : Draws source [] r P) (hk : ∀ a, Draws source front (k a) Q) :
    Draws source front (r >>= k) Q := by
  intro s b rest hs hrun
  obtain ⟨⟨a, mid⟩, hfirst, hsecond⟩ := MayBe.exists_of_bind hrun
  obtain ⟨t, -, hmid⟩ := hr s a mid (behind hs) hfirst
  have hleft : MadeOf mid s :=
    (MadeOf.of_sublist (List.sublist_append_right t mid)).trans hmid
  have hboth := hleft.append_left front
  obtain ⟨u, hQ, hrest⟩ := hk a mid b rest (hboth.trans hs) hsecond
  exact ⟨u, hQ, hrest.trans hboth⟩

theorem mono {P' : α → Glyphs → Prop} (hr : Draws source front r P)
    (h : ∀ a t, P a t → P' a t) :
    Draws source front r P' := by
  intro s a rest hs hrun
  obtain ⟨t, hP, hmade⟩ := hr s a rest hs hrun
  exact ⟨t, h a t hP, hmade⟩

/-- A reader that only takes a text apart in some way. -/
theorem of_apart {f : StateM Glyphs α}
    (h : ∀ s, MadeOf s source → ∃ t, P (f s).1 t ∧ MadeOf (t ++ (f s).2) s) :
    Draws source [] f P := by
  intro s a rest hs hrun
  have heq : (a, rest) = f s := hrun
  have hfs := h s hs
  rw [← heq] at hfs
  exact hfs

/-- A text is taken apart in some way by what is put together to a reader. -/
theorem modifyGet {f : Glyphs → α × Glyphs}
    (h : ∀ s, MadeOf (front ++ s) source →
      ∃ t, P (f s).1 t ∧ MadeOf (t ++ (f s).2) (front ++ s)) :
    Draws source front (MonadState.modifyGet f : StateT Glyphs m α) P := by
  intro s a rest hs hrun
  have heq : (a, rest) = f s := MayBe.eq_of_pure hrun
  have hfs := h s hs
  rw [← heq] at hfs
  exact hfs

/-- What is read again and again draws from what it is given if each reading
does. -/
theorem many {step : StateT Glyphs m (Option α)} {P : α → Glyphs → Prop}
    (hstep : Draws source [] step (IfAny P)) :
    Draws source [] (Email.many step) (Each P) := by
  intro s
  induction hlength : s.length using Nat.strongRecOn generalizing s with
  | ind n ih =>
      intro as rest hs hrun
      rw [Email.many] at hrun
      obtain ⟨⟨found, mid⟩, hfirst, hsecond⟩ := MayBe.exists_of_bind hrun
      obtain ⟨t, hP, hmid⟩ := hstep s found mid hs hfirst
      have hleft : MadeOf mid s :=
        (MadeOf.of_sublist (List.sublist_append_right t mid)).trans hmid
      cases found with
      | none =>
          obtain ⟨rfl, rfl⟩ := Prod.mk.inj (MayBe.eq_of_pure hsecond)
          exact ⟨[], trivial, hleft⟩
      | some a =>
          have ha : P a t := hP
          dsimp only at hsecond
          split at hsecond
          · next hshorter =>
            obtain ⟨⟨more, last⟩, hmany, hend⟩ := MayBe.exists_of_bind hsecond
            obtain ⟨rfl, rfl⟩ := Prod.mk.inj (MayBe.eq_of_pure hend)
            obtain ⟨u, hmore, hlast⟩ :=
              ih mid.length (by omega) mid rfl more rest (hleft.trans hs) hmany
            refine ⟨t ++ u, ⟨t, u, rfl, ha, hmore⟩, ?_⟩
            rw [List.append_assoc]
            exact (hlast.append_left t).trans hmid
          · obtain ⟨rfl, rfl⟩ := Prod.mk.inj (MayBe.eq_of_pure hsecond)
            exact ⟨t, ⟨t, [], by simp, ha, trivial⟩, hmid⟩

end Draws

/-! ## Readers of single glyphs, and of other forms -/

namespace Reader

section Runs

variable {α β : Type} {c : Char}

theorem run_bind (r : Reader α) (k : α → Reader β) (s : Glyphs) :
    (r >>= k) s = (r s).bind fun out => k out.1 out.2 := rfl

theorem run_map (f : α → β) (r : Reader α) (s : Glyphs) :
    (f <$> r) s = (r s).map fun out => (f out.1, out.2) := by
  rw [map_eq_pure_bind, run_bind]
  cases r s <;> rfl

theorem run_orElse_of_ok {r r' : Reader α} {s : Glyphs} {out : α × Glyphs}
    (h : r s = .ok out) :
    r.orElse r' s = .ok out := by
  unfold Reader.orElse
  rw [h]

theorem run_orElse_of_mismatch {r r' : Reader α} {s : Glyphs}
    (h : r s = .error .mismatch) :
    r.orElse r' s = r' s := by
  unfold Reader.orElse
  rw [h]

theorem run_nextIs (p : Char → Bool) (s : Glyphs) :
    Reader.nextIs p s = .ok (s.head?.any (·.isIn p), s) := rfl

theorem run_skipIf_cons (c : Char) (g : Glyph) (s : Glyphs) :
    Reader.skipIf c (g :: s) =
      .ok (g.isIn (· == c), if g.isIn (· == c) then s else g :: s) := by
  unfold Reader.skipIf
  rw [run_bind, run_nextIs]
  cases hg : g.isIn (· == c) <;> simp [Except.bind, hg] <;> rfl

theorem run_expect_cons (c : Char) (g : Glyph) (s : Glyphs) :
    Reader.expect c (g :: s) = if g.isIn (· == c) then .ok ((), s)
      else .error .mismatch := by
  unfold Reader.expect
  rw [run_bind, run_skipIf_cons]
  cases hg : g.isIn (· == c) <;> rfl

/-- A header in which a character was expected and found begins with it. -/
theorem eq_of_expect {s rest : Glyphs} {out : Unit}
    (h : Reader.expect c s = .ok (out, rest)) :
    s = .char c :: rest := by
  cases s with
  | nil => cases h
  | cons g s =>
      rw [run_expect_cons] at h
      split at h
      · next hg =>
        obtain ⟨-, rfl⟩ := Prod.mk.inj (Except.ok.inj h)
        cases g with
        | char d =>
            obtain rfl : d = c := by simpa [Glyph.isIn] using hg
            rfl
        | half n => cases hg
      · cases h

end Runs

end Reader

namespace Draws

variable {α β : Type} {source front : Glyphs} {r r' : Reader α}
    {P : α → Glyphs → Prop}

/-- A reader that stops yields nothing. -/
theorem mismatch : Draws source front (Reader.mismatch : Reader α) P := by
  intro s a rest _ hrun
  cases hrun

theorem fail (e : MailError) :
    Draws source front (Reader.fail e : Reader α) P := by
  intro s a rest _ hrun
  cases hrun

/-- What stops a reader in one case need not be looked at in the other one. -/
theorem guard {b : Bool} {stop : Reader PUnit} {k : PUnit → Reader β}
    {Q : β → Glyphs → Prop} (hstop : Draws source front stop fun _ _ => False)
    (hk : Draws source front (k ⟨⟩) Q) :
    Draws source front (if b = true then stop >>= k else k ⟨⟩) Q := by
  cases b with
  | true => exact .bind hstop fun _ _ hfalse => hfalse.elim
  | false => exact hk

/-- A second form draws from what the first one was given. -/
theorem orElse (hr : Draws source front r P) (hr' : Draws source front r' P) :
    Draws source front (r.orElse r') P := by
  intro s a rest hs hrun
  have hrun : r.orElse r' s = .ok (a, rest) := hrun
  unfold Reader.orElse at hrun
  split at hrun
  · exact hr' s a rest hs hrun
  · exact hr s a rest hs hrun

/-- What is made of what was yielded. -/
theorem map {f : α → β} {Q : β → Glyphs → Prop} (hr : Draws source front r P)
    (h : ∀ a t, P a t → Q (f a) t) :
    Draws source front (f <$> r) Q := by
  rw [map_eq_pure_bind]
  exact .bind hr fun a t ha => .pure (h a t ha)

/-- A look at the header leaves it as it is. -/
theorem look {f : Glyphs → α} {r : Reader α} (hr : ∀ s, r s = .ok (f s, s)) :
    Draws source [] r Anything := by
  intro s a rest _ hrun
  have heq := (hr s).symm.trans hrun
  obtain ⟨-, rfl⟩ := Prod.mk.inj (Except.ok.inj heq)
  exact ⟨[], trivial, .refl _⟩

theorem atEnd : Draws source [] Reader.atEnd Anything := look fun _ => rfl

theorem nextIs (p : Char → Bool) : Draws source [] (Reader.nextIs p) Anything :=
  look fun _ => rfl

theorem skip : Draws source [] Reader.skip Anything :=
  .modifyGet fun s _ => ⟨[], trivial, .of_sublist (List.drop_sublist 1 s)⟩

theorem skipIf (c : Char) : Draws source [] (Reader.skipIf c) Anything := by
  unfold Reader.skipIf
  refine .skim (nextIs _) fun found => ?_
  cases found with
  | true => exact .skim skip fun _ => .pure trivial
  | false => exact .pure trivial

/-- A character that has to be next is what is taken. -/
theorem expectTaking (c : Char) :
    Draws source [] (Reader.expect c) fun _ t => t = [.char c] := by
  intro s _ rest _ hrun
  obtain rfl := Reader.eq_of_expect hrun
  exact ⟨_, rfl, .refl _⟩

theorem expect (c : Char) : Draws source [] (Reader.expect c) Anything :=
  (expectTaking c).mono fun _ _ _ => trivial

end Draws

end Notices.Email
