import Notices.Proofs.Words

/-!
# What is read of addresses

Domains, users, mailboxes, groups and message ids are drawn from the header that
they are read in, if it cannot come to hold an encoded word.  So the text of a
header, which is what was read put together again, is made of the header.

* `draws_readDomain`, `draws_readUser` and `draws_readMailbox` say so of the
  readers.  A user may be put back and read again, which is why the readers of
  words say how a word is written.
* `madeOf_addressText` and `madeOf_idText` say it of the texts of headers.
-/

namespace Notices.Email

/-! ## Domains -/

/-- A domain is of a text: how it is written and what it says are made of it. -/
def Domain.IsOf (d : Domain) (t : Glyphs) : Prop :=
  MadeOf d.written t ∧ MadeOf d.value t

section Readers

variable {source : Glyphs}

theorem draws_readLiteralText :
    Draws source [] readLiteralText (Taking id) := by
  unfold readLiteralText
  refine .skim .atEnd fun _ => .skim (.nextIs _) fun _ => .guard (.fail _) ?_
  exact .modifyGet fun s _ => ⟨_, .refl _, madeOf_splitUnescaped _ s⟩

theorem draws_readBlanks : Draws source [] readBlanks (Taking id) := by
  unfold readBlanks
  refine .skim (.nextIs _) fun found => ?_
  cases found with
  | true => exact .modifyGet fun s _ => ⟨_, .refl _, madeOf_span rfl⟩
  | false => exact .pure (.refl _)

theorem draws_readLiteral : Draws source [] readLiteral Domain.IsOf := by
  unfold readLiteral
  refine .skim (.expect _) fun _ => .skim .atEnd fun isOver => ?_
  cases isOver with
  | true => exact .pure ⟨.refl _, .refl _⟩
  | false =>
      refine draws_readBlanks.bind fun before t₁ hbefore => ?_
      refine draws_readLiteralText.next fun text t₂ htext => ?_
      refine draws_readBlanks.next fun after t₃ hafter => ?_
      refine .skim .atEnd fun isOver => ?_
      cases isOver with
      | true => exact .pure ⟨.nil _, .nil _⟩
      | false =>
          refine .skim (.expect _) fun _ => ?_
          refine draws_readGap?.next fun gap t₄ hgap => .pure ⟨?_, ?_⟩
          · have hinside :=
              ((hbefore.append htext).append hafter).cons_mark (g := .char '[')
                (by decide)
            exact (hinside.append_mark (g := .char ']') (by decide)).append hgap
          · have hvalue : MadeOf text (t₁ ++ t₂ ++ t₃ ++ t₄) :=
              ((htext.extend_left t₁).extend_right t₃).extend_right t₄
            exact (hvalue.cons_mark (g := .char '[') (by decide)).append_mark
              (by decide)

/-- A domain with further labels is of the text that it and the labels are
of. -/
theorem isOf_foldl {d : Domain} {labels : List Word} {t u : Glyphs}
    (hd : d.IsOf t) (hlabels : Each Word.IsOf labels u) :
    (labels.foldl (fun d w => ({ d with
      written := d.written ++ [.char '.'], value := d.value ++
        [.char '.'] } : Domain).append w) d).IsOf (t ++ u) := by
  induction labels generalizing d t u with
  | nil => exact ⟨hd.1.extend_right u, hd.2.extend_right u⟩
  | cons w rest ih =>
      obtain ⟨u₁, u₂, rfl, hw, hrest⟩ := hlabels
      rw [← List.append_assoc, List.foldl_cons]
      refine ih ⟨?_, ?_⟩ hrest
      · exact (hd.1.append_mark (by decide)).append hw.1
      · exact (hd.2.append_mark (by decide)).append hw.2

section Plain

variable (hplain : ¬ MayHoldWord source)

include hplain

theorem draws_readLabels : Draws source [] readLabels (Each Word.IsOf) := by
  refine .many (.skim (.skipIf _) fun found => ?_)
  cases found with
  | true => exact (draws_readAtom hplain).bind fun w t hw => .pure hw
  | false => exact .pure trivial

theorem draws_readDomain : Draws source [] readDomain Domain.IsOf := by
  unfold readDomain
  refine .skim .atEnd fun _ => .guard (.fail _) ?_
  refine draws_readGap?.bind fun before t₁ hbefore =>
    .skim (.nextIs _) fun found => ?_
  cases found with
  | true =>
      refine draws_readLiteral.next fun d t₂ hd => .pure ⟨?_, ?_⟩
      · exact hbefore.append hd.1
      · exact (madeOf_gapValue before t₁).append hd.2
  | false =>
      refine ((draws_readDotAtom hplain).orElse (draws_readAtom hplain)).next
        fun first t₂ hfirst => ?_
      refine .skim (.nextIs _) fun _ => .guard .mismatch ?_
      refine (draws_readLabels hplain).next fun labels t₃ hlabels => .pure ?_
      refine isOf_foldl ⟨?_, ?_⟩ hlabels
      · exact hbefore.append hfirst.1
      · exact (madeOf_gapValue before t₁).append hfirst.2

end Plain

end Readers

/-! ## Users -/

/-- What a user says is made of its parts. -/
theorem madeOf_userText (atPoint : Bool) (parts : List Part) :
    MadeOf (userText atPoint parts) (parts.flatMap Part.value) := by
  have hgaps (w : Word) (before after : Bool) :
      MadeOf ((if before then [] else gapValue w.before) ++ w.core.value ++
      (if after then [] else gapValue w.after)) w.value := by
    refine (MadeOf.append ?_ (.refl _)).append ?_
    · cases before with
      | true => exact .nil _
      | false => exact madeOf_gapValue _ _
    · cases after with
      | true => exact .nil _
      | false => exact madeOf_gapValue _ _
  fun_induction userText atPoint parts with
  | case1 => exact .nil _
  | case2 atPoint gap rest ih => exact ih.extend_left _
  | case3 atPoint rest ih => exact (ih.extend_left _).cons_mark (by decide)
  | case4 atPoint rest ih => exact (ih.extend_left _).cons_mark (by decide)
  | case5 atPoint w rest ih =>
      exact (hgaps w atPoint (endsAtPoint rest)).append ih

section Readers

variable {source : Glyphs} (hplain : ¬ MayHoldWord source)

include hplain

theorem draws_readUserParts :
    Draws source [] readUserParts (Taking (List.flatMap Part.value)) := by
  refine (Draws.many ?_).mono fun parts t heach => heach.flatMap fun _ _ h => h
  refine .skim .atEnd fun isOver => ?_
  cases isOver with
  | true => exact .pure trivial
  | false =>
      refine .skim (.skipIf _) fun found => ?_
      cases found with
      | true => exact .pure (.of_marks (by decide))
      | false =>
          refine .skim (.nextIs _) fun ends => ?_
          cases ends with
          | true => exact .pure trivial
          | false =>
              refine .skim (.skipIf _) fun found => ?_
              cases found with
              | true => exact .pure (.of_marks (by decide))
              | false =>
                  exact (draws_readWordOrGap hplain).bind fun part t hpart =>
                    .pure hpart

theorem draws_readWord? : Draws source [] readWord? (IfAny Word.IsOf) := by
  refine .orElse
    (((draws_readDotAtom hplain).orElse (draws_readWord hplain)).map
      fun w t hw => hw) ?_
  refine .skim (.nextIs _) fun ends => .skim (.nextIs _) fun _ => ?_
  split
  · exact .mismatch
  · exact .pure trivial

theorem draws_readUser : Draws source [] readUser (Taking (told id)) := by
  unfold readUser
  refine .skim .atEnd fun _ => .guard (.fail _) ?_
  refine draws_readGap?.bind fun before t₁ hbefore => .skim .atEnd fun _ =>
    .guard .mismatch ?_
  refine (draws_readWord? hplain).next fun word t₂ hword => ?_
  have hwritten : MadeOf ((word.map Word.written).getD []) t₂ := by
    cases word with
    | none => exact .nil _
    | some w => exact hword.1
  refine .skim .atEnd fun isOver => .skim (.nextIs _) fun _ =>
    .skim (.nextIs _) fun _ => ?_
  dsimp only
  split
  · next w _ =>
    refine .pure ?_
    split
    · exact .nil _
    · have hvalue : MadeOf w.core.value w.value := by
        unfold Word.value
        exact ((MadeOf.refl _).extend_left _).extend_right _
      exact (hvalue.trans hword.2).extend_left t₁
  · -- what was read is put back in the form in which it is written, and
    -- nothing is left before it
    refine .bind (P := fun _ t => t = []) (.modifyGet fun s _ => ⟨[], rfl, ?_⟩)
      fun _ t ht => ?_
    · exact (hbefore.append hwritten).append (.refl s)
    · subst ht
      refine (draws_readUserParts hplain).bind fun parts t hparts => ?_
      split
      · exact .fail _
      · exact .fail _
      · exact .pure ((madeOf_userText true parts).trans hparts)

end Readers

/-! ## Mailboxes -/

/-- The glyphs of a mailbox, in the order in which they are read. -/
def Mailbox.glyphs (m : Mailbox) : Glyphs := m.name ++ m.user ++ m.domain

/-- The glyphs of a user with a domain. -/
def Place.glyphs (p : Place) : Glyphs := told id p.user ++ p.domain

/-- A mailbox is of a text: its glyphs are made of it, and no part of it
holds the end of a line. -/
def Mailbox.IsOf (reading : Except MailError Mailbox) (t : Glyphs) : Prop :=
  MadeOf (told Mailbox.glyphs reading) t ∧ ∀ m, reading = .ok m →
    m.isBroken = false

/-- What is no mailbox is of any text. -/
theorem Mailbox.isOf_error (e : MailError) (t : Glyphs) :
    Mailbox.IsOf (.error e) t := ⟨.nil t, nofun⟩

/-- The mailbox that has nothing is of any text. -/
theorem Mailbox.isOf_nobody (t : Glyphs) : Mailbox.IsOf (.ok .nobody) t := by
  refine ⟨.nil t, fun m h => ?_⟩
  obtain rfl := Except.ok.inj h
  rfl

/-- A mailbox is of the text that its name and its place are made of. -/
theorem Place.isOf_mailbox {p : Place} {name : Except MailError Glyphs}
    {t : Glyphs} (h : MadeOf (told id name ++ p.glyphs) t) :
    Mailbox.IsOf (p.mailbox name) t := by
  obtain ⟨user, domain⟩ := p
  cases name with
  | error e => exact Mailbox.isOf_error e t
  | ok name =>
      cases user with
      | error e => exact Mailbox.isOf_error e t
      | ok user =>
          cases hbroken : Mailbox.isBroken ⟨name, user, domain⟩ with
          | true =>
              have hmailbox : Place.mailbox ⟨.ok user, domain⟩ (.ok name) =
                  .error .brokenAddress := by
                simp [Place.mailbox, bind, Except.bind, hbroken, throw,
                  throwThe, MonadExceptOf.throw]
              rw [hmailbox]
              exact Mailbox.isOf_error _ t
          | false =>
              have hmailbox : Place.mailbox ⟨.ok user, domain⟩ (.ok name) =
                  .ok ⟨name, user, domain⟩ := by
                simp [Place.mailbox, bind, Except.bind, hbroken, pure,
                  Except.pure]
              rw [hmailbox]
              refine ⟨?_, fun m hm => ?_⟩
              · simpa [told, Mailbox.glyphs, Place.glyphs] using h
              · obtain rfl := Except.ok.inj hm
                exact hbroken

/-- The text of a mailbox is made of its glyphs. -/
theorem madeOf_mailboxText (m : Mailbox) : MadeOf m.text m.glyphs := by
  have hquoted (p : Char → Bool)
      (s : Glyphs) : MadeOf (if s.any (·.isIn p) then inQuotes s else s) s := by
    split
    · exact madeOf_inQuotes s
    · exact .refl s
  have haddress : MadeOf m.address (m.user ++ m.domain) := by
    unfold Mailbox.address
    dsimp only
    split
    · exact (hquoted _ m.user).extend_right _
    · exact (hquoted _ m.user).append ((MadeOf.refl _).cons_mark (by decide))
  have hname := hquoted isSpecial m.name
  unfold Mailbox.text Mailbox.glyphs
  dsimp only
  generalize (if m.name.any (·.isIn isSpecial) then inQuotes m.name
    else m.name) = shown at hname ⊢
  rw [List.append_assoc m.name]
  split
  · have hbehind : MadeOf (.char ' ' :: .char '<' :: m.address ++ [.char '>'])
        (m.user ++ m.domain) :=
      ((haddress.cons_mark (by decide)).cons_mark (by decide)).append_mark
        (by decide)
    rw [List.append_assoc]
    exact hname.append hbehind
  · split
    · exact .of_marks (by decide)
    · exact haddress.extend_left _

section Readers

variable {source : Glyphs}

theorem draws_readRouteStart : Draws source [] readRouteStart Anything := by
  refine (Draws.many (P := Anything) (.skim (.skipIf _) fun found => ?_)).mono
    fun _ _ _ => trivial
  cases found with
  | true => exact .pure trivial
  | false =>
      refine .skim (.nextIs _) fun found => ?_
      cases found with
      | true => exact .skim draws_readGap fun _ => .pure trivial
      | false => exact .pure trivial

/-- A phrase behind a gap is made of the phrase. -/
theorem draws_behindGap (gap : Glyphs) {phrase : List Part} {t : Glyphs}
    (h : MadeOf (phrase.flatMap Part.value) t) :
    Draws source t (behindGap gap phrase)
      (Taking (List.flatMap Part.value)) := by
  unfold behindGap
  split
  · next w rest =>
    have hword : MadeOf ({ w with before := some gap } : Word).value w.value :=
      madeOf_value rfl
    exact .pure ((hword.append (.refl _)).trans h)
  · exact .fail _

section Plain

variable (hplain : ¬ MayHoldWord source)

include hplain

theorem draws_readPlace : Draws source [] readPlace (Taking Place.glyphs) := by
  unfold readPlace
  refine (draws_readUser hplain).bind fun user t₁ huser =>
    .skim (.skipIf _) fun found => ?_
  cases found with
  | false => exact .pure (huser.append (.nil []) |>.trans (.of_eq (by simp)))
  | true =>
      refine (draws_readDomain hplain).next fun domain t₂ hdomain =>
        .guard (.fail _) (.pure ?_)
      exact huser.append
        ((MadeOf.of_sublist List.filter_sublist).trans hdomain.2)

theorem draws_readRouteDomains : Draws source [] readRouteDomains Anything := by
  refine (Draws.many (P := Anything) (.skim (.skipIf _) fun found => ?_)).mono
    fun _ _ _ => trivial
  cases found with
  | false => exact .pure trivial
  | true =>
      refine .skim .atEnd fun isOver => ?_
      cases isOver with
      | true => exact .pure trivial
      | false =>
          refine .skim draws_readGap? fun _ => .skim .atEnd fun _ =>
            .guard (.fail _) ?_
          refine .skim (.skipIf _) fun found => ?_
          cases found with
          | true => exact .skim (draws_readDomain hplain) fun _ => .pure trivial
          | false => exact .pure trivial

theorem draws_readRoute : Draws source [] readRoute Anything := by
  refine .skim (draws_readRouteStart) fun _ => .skim (.expect _) fun _ => ?_
  refine .skim (draws_readDomain hplain) fun _ =>
    .skim (draws_readRouteDomains hplain) fun _ => ?_
  exact .expect _

theorem draws_readAngles :
    Draws source [] readAngles (Taking Place.glyphs) := by
  unfold readAngles
  refine .skim draws_readGap? fun _ => .skim (.expect _) fun _ =>
    .skim .atEnd fun _ => .guard (.fail _) ?_
  refine .skim (.skipIf _) fun found => ?_
  cases found with
  | true => exact .pure (.nil _)
  | false =>
      have hplace : Draws source [] (readPlace.orElse do readRoute; readPlace)
          (Taking Place.glyphs) :=
        (draws_readPlace hplain).orElse
          (.skim (draws_readRoute hplain) fun _ => draws_readPlace hplain)
      refine hplace.bind fun place t hplace => ?_
      exact .skim (.skipIf _) fun _ => .skim draws_readGap? fun _ =>
        .pure hplace

theorem draws_readNamed : Draws source [] readNamed Mailbox.IsOf := by
  unfold readNamed
  refine draws_readGap?.bind fun gap t₁ _ => .skim .atEnd fun _ =>
    .guard .mismatch ?_
  refine .skim (.nextIs _) fun found => ?_
  cases found with
  | true =>
      refine (draws_readAngles hplain).next fun place t₂ hplace => .pure ?_
      exact Place.isOf_mailbox (hplace.extend_left t₁)
  | false =>
      refine .skim (.nextIs _) fun _ => .guard .mismatch ?_
      refine (draws_readPhrase hplain).next fun phrase t₂ hphrase =>
        .skim .atEnd fun _ => .guard .mismatch ?_
      have hread (phrase : List Part) (t : Glyphs)
          (h : MadeOf (phrase.flatMap Part.value) t) :
          Draws source t (do return (← readAngles).mailbox (nameOf phrase))
            Mailbox.IsOf := by
        refine (draws_readAngles hplain).next fun place t₃ hplace => .pure ?_
        exact Place.isOf_mailbox
          (((madeOf_nameOf phrase).trans h).append hplace)
      cases gap with
      | some gap =>
          exact (draws_behindGap gap (hphrase.extend_left t₁)).bind hread
      | none => exact hread phrase _ (hphrase.extend_left t₁)

theorem draws_readMailbox : Draws source [] readMailbox Mailbox.IsOf :=
  (draws_readNamed hplain).orElse
    ((draws_readPlace hplain).bind fun _ _ hplace =>
    .pure (Place.isOf_mailbox hplace))

end Plain

end Readers

/-! ## Groups and lists -/

/-- Readings without an error among them are those of what they tell. -/
theorem eq_map_of_mapM {α : Type} {readings : List (Except MailError α)}
    {as : List α} (h : readings.mapM id = .ok as) : readings = as.map .ok := by
  induction readings generalizing as with
  | nil =>
      obtain rfl := Except.ok.inj h
      rfl
  | cons reading rest ih =>
      rw [List.mapM_cons] at h
      cases reading with
      | error e => cases h
      | ok a =>
          cases hrest : rest.mapM id with
          | error e =>
              rw [hrest] at h
              cases h
          | ok more =>
              rw [hrest] at h
              obtain rfl := Except.ok.inj h
              rw [ih hrest, List.map_cons]

/-- Texts with a comma between them are made of the texts. -/
theorem madeOf_join (texts : List Glyphs) :
    MadeOf (Text.join comma texts) texts.flatten := by
  fun_induction Text.join comma texts with
  | case1 => exact .nil _
  | case2 s => exact .of_eq (by simp)
  | case3 s rest _ ih =>
      have hcomma : MadeOf (s ++ comma) s := by
        have hmark : MadeOf comma [] := .of_marks (by decide)
        simpa using (MadeOf.refl s).append hmark
      exact hcomma.append ih

/-- Texts that are each made of another one, are so with commas between them. -/
theorem madeOf_join_map {α : Type} {f g : α → Glyphs}
    (h : ∀ a, MadeOf (f a) (g a)) (as : List α) :
    MadeOf (Text.join comma (as.map f)) (as.flatMap g) := by
  refine (madeOf_join _).trans ?_
  induction as with
  | nil => exact .nil _
  | cons a rest ih => exact (h a).append ih

namespace Address

/-- The glyphs of an address, in the order in which they are read.  A colon is
behind the name of a group. -/
def glyphs : Address → Glyphs
  | .mailbox m => m.glyphs
  | .group name members => name ++ .char ':' :: members.flatMap Mailbox.glyphs

/-- The mailboxes of an address. -/
def mailboxes : Address → List Mailbox
  | .mailbox m => [m]
  | .group _ members => members

/-- An address is of a text: its glyphs are made of it, and none of its
mailboxes holds the end of a line. -/
def IsOf (reading : Except MailError Address) (t : Glyphs) : Prop :=
  MadeOf (told glyphs reading) t ∧ ∀ a, reading = .ok a →
    ∀ m ∈ a.mailboxes, m.isBroken = false

/-- What is no address is of any text. -/
theorem isOf_error (e : MailError) (t : Glyphs) : IsOf (.error e) t :=
  ⟨.nil t, nofun⟩

/-- A mailbox by itself is of the text that it is of as a mailbox. -/
theorem isOf_mailbox {reading : Except MailError Mailbox} {t : Glyphs}
    (h : Mailbox.IsOf reading t) :
    IsOf (.mailbox <$> reading) t := by
  cases reading with
  | error e => exact isOf_error e t
  | ok m =>
      refine ⟨h.1, fun a ha => ?_⟩
      obtain rfl := Except.ok.inj ha
      intro m' hm'
      obtain rfl := List.mem_singleton.mp hm'
      exact h.2 m' rfl

end Address

/-- The text of an address is made of its glyphs. -/
theorem madeOf_text (a : Address) : MadeOf a.text a.glyphs := by
  cases a with
  | mailbox m => exact madeOf_mailboxText m
  | group name members =>
      have hshown :
          MadeOf (if name.any (·.isIn isSpecial) then inQuotes name else name)
            name := by
        split
        · exact madeOf_inQuotes name
        · exact .refl name
      have hinside :
          MadeOf (if (Text.join comma (members.map Mailbox.text)).isEmpty =
            true then []
          else .char ' ' :: Text.join comma (members.map Mailbox.text))
            (members.flatMap Mailbox.glyphs) := by
        split
        · exact .nil _
        · exact (madeOf_join_map madeOf_mailboxText members).cons_mark
            (by decide)
      have hbehind :=
        (hinside.cons (.char ':')).append_mark (g := .char ';') (by decide)
      unfold Address.text
      dsimp only
      rw [List.append_assoc]
      exact hshown.append hbehind

/-- A group is of a text: its name, a colon and its members are made of it, and
no member holds the end of a line. -/
def Group.IsOf (g : Group) (t : Glyphs) : Prop :=
  MadeOf (told id g.name ++
    .char ':' :: g.members.flatMap (told Mailbox.glyphs)) t ∧
    ∀ m, .ok m ∈ g.members → m.isBroken = false

/-- What a group says is of the text that the group is of. -/
theorem Group.isOf_address {g : Group} {t : Glyphs} (h : g.IsOf t)
    (isFollowed : Bool) :
    Address.IsOf (g.address isFollowed) t := by
  obtain ⟨name, members⟩ := g
  cases name with
  | error e => exact Address.isOf_error e t
  | ok name =>
      cases isFollowed with
      | true => exact Address.isOf_error _ t
      | false =>
          cases hread : members.mapM id with
          | error e =>
              have haddress : Group.address ⟨.ok name, members⟩ false =
                  .error e := by
                simp [Group.address, bind, Except.bind, hread]
              rw [haddress]
              exact Address.isOf_error e t
          | ok mailboxes =>
              have haddress : Group.address ⟨.ok name, members⟩ false =
                  .ok (.group name mailboxes) := by
                simp [Group.address, bind, Except.bind, hread, pure,
                  Except.pure]
              obtain rfl := eq_map_of_mapM hread
              rw [haddress]
              refine ⟨?_, fun a ha => ?_⟩
              · simpa [told, Address.glyphs, List.flatMap_map] using h.1
              · obtain rfl := Except.ok.inj ha
                exact fun m hm => h.2 m (List.mem_map_of_mem hm)

/-- Reads what stands at the place of an address. -/
def readItem : Reader (Option (Bool → Except MailError Address)) :=
  (some <$> readAddress).orElse
    (readStray (fun _ => .ok (.mailbox .nobody)) (· == ','))

/-- Reads up to the next place, and tells what an address says. -/
def endItem (item : Option (Bool → Except MailError Address)) :
    Reader (Option (Option (Except MailError Address))) := do
  let isFollowed := !(← Reader.atEnd) && !(← Reader.nextIs (· == ','))
  let _ ← skipTo (· == ',')
  let _ ← Reader.skipIf ','
  return some (item.map (· isFollowed))

/-- Reads an address and what is behind it, if the header is not at its end. -/
def readNext : Reader (Option (Option (Except MailError Address))) := do
  if ← Reader.atEnd then return none
  endItem (← readItem)

/-- The addresses of a header are read one after the other. -/
theorem readAddresses_eq : readAddresses = do
    let items ← many readNext
    return items.filterMap id := rfl

section Readers

variable {source : Glyphs} (hplain : ¬ MayHoldWord source)

include hplain

theorem draws_skipTo (ends : Char → Bool) :
    Draws source [] (skipTo ends) Anything := by
  refine (Draws.many (P := Anything)
    (.skim .atEnd fun isOver => .skim (.nextIs _) fun found => ?_)).mono
    fun _ _ _ => trivial
  cases isOver || found with
  | true => exact .pure trivial
  | false =>
      refine .skim (.nextIs _) fun found => ?_
      cases found with
      | true => exact .skim .skip fun _ => .pure trivial
      | false => exact .skim (draws_readPhrase hplain) fun _ => .pure trivial

theorem draws_readStray {α : Type} {P : α → Glyphs → Prop} (stray : α)
    (ends : Char → Bool) (h : P stray []) :
    Draws source [] (readStray stray ends) (IfAny P) := by
  unfold readStray
  refine .skim (.nextIs _) fun isEmpty => .skim draws_readGap? fun _ => ?_
  refine .skim .atEnd fun isOver => .skim (.nextIs _) fun found => ?_
  split
  · exact .pure trivial
  · exact .skim (draws_skipTo hplain ends) fun _ => .pure h

theorem draws_readMembers : Draws source [] readMembers fun members t =>
    MadeOf (members.flatMap (told Mailbox.glyphs)) t ∧ ∀ m, .ok m ∈ members →
      m.isBroken = false := by
  unfold readMembers
  refine (Draws.many (P := IfAny Mailbox.IsOf) ?_).bind fun items t hitems =>
    .pure ⟨?_, fun m hm => ?_⟩
  · refine .skim .atEnd fun isOver => .skim (.nextIs _) fun found => ?_
    cases isOver || found with
    | true => exact .pure trivial
    | false =>
        have hmailbox :
            Draws source [] (some <$> readMailbox) (IfAny Mailbox.IsOf) :=
          (draws_readMailbox hplain).map fun _ _ h => h
        have hstray :=
          draws_readStray hplain _ (fun c => c == ',' || c == ';')
            (Mailbox.isOf_nobody [])
        refine (hmailbox.orElse hstray).bind fun item t hitem => ?_
        exact .skim (draws_skipTo hplain _) fun _ => .skim (.skipIf _) fun _ =>
          .pure hitem
  · exact hitems.filterMap fun _ _ h => h.1
  · exact hitems.forall_filterMap (fun _ _ h => h.2) _ hm m rfl

theorem draws_readGroup : Draws source [] readGroup Group.IsOf := by
  unfold readGroup
  refine (draws_readPhrase hplain).bind fun phrase t₁ hphrase =>
    (Draws.expectTaking ':').next fun _ t₂ ht₂ => ?_
  subst ht₂
  have hname : MadeOf (told id (nameOf phrase)) t₁ :=
    (madeOf_nameOf phrase).trans hphrase
  refine .skim (.skipIf _) fun found => ?_
  cases found with
  | true =>
      exact .pure
        ⟨hname.append (.refl _), fun _ hm => (List.not_mem_nil hm).elim⟩
  | false =>
      refine .skim draws_readGap? fun _ =>
        (draws_readMembers hplain).next fun members t₃ hmembers => ?_
      refine .skim (.skipIf _) fun _ => .skim draws_readGap? fun _ =>
        .pure ⟨?_, hmembers.2⟩
      rw [List.append_assoc]
      exact hname.append (hmembers.1.cons (.char ':'))

theorem draws_readAddress :
    Draws source [] readAddress fun address t =>
      ∀ isFollowed, Address.IsOf (address isFollowed) t :=
  .orElse ((draws_readGroup hplain).map fun _ _ hg isFollowed =>
    Group.isOf_address hg isFollowed)
    ((draws_readMailbox hplain).map fun _ _ hmailbox _ =>
      Address.isOf_mailbox hmailbox)

/-- What an address says is told, and nothing more is read of it. -/
theorem draws_endItem (front : Glyphs)
    (item : Option (Bool → Except MailError Address)) :
    Draws source front (endItem item) fun out t =>
      t = front ∧ ∃ isFollowed, out = some (item.map (· isFollowed)) := by
  refine .skim .atEnd fun isOver => .skim (.nextIs _) fun found => ?_
  exact .skim (draws_skipTo hplain _) fun _ => .skim (.skipIf _) fun _ =>
    .pure ⟨rfl, _, rfl⟩

theorem draws_readNext :
    Draws source [] readNext (IfAny (IfAny Address.IsOf)) := by
  refine .skim .atEnd fun isOver => ?_
  cases isOver with
  | true => exact .pure trivial
  | false =>
      let P : (Bool → Except MailError Address) → Glyphs → Prop :=
        fun address t =>
        ∀ isFollowed, Address.IsOf (address isFollowed) t
      have haddress : Draws source [] (some <$> readAddress) (IfAny P) :=
        (draws_readAddress hplain).map fun _ _ h => h
      have hnobody : P (fun _ => .ok (.mailbox .nobody)) [] := fun _ =>
        Address.isOf_mailbox (Mailbox.isOf_nobody [])
      have hstray := draws_readStray hplain _ (· == ',') hnobody
      refine (haddress.orElse hstray).bind fun item t hitem =>
        (draws_endItem hplain t item).mono ?_
      rintro out _ ⟨rfl, isFollowed, rfl⟩
      cases item with
      | none => trivial
      | some address => exact hitem isFollowed

theorem draws_readAddresses : Draws source [] readAddresses fun readings t =>
    MadeOf (readings.flatMap (told Address.glyphs)) t ∧
      ∀ a, .ok a ∈ readings → ∀ m ∈ a.mailboxes, m.isBroken = false := by
  rw [readAddresses_eq]
  refine (Draws.many (draws_readNext hplain)).bind fun items t hitems =>
    .pure ⟨?_, fun a ha => ?_⟩
  · exact hitems.filterMap fun _ _ h => h.1
  · exact hitems.forall_filterMap (fun _ _ h => h.2) _ ha a rfl

end Readers

/-! ## The texts of headers -/

/-- The addresses of a header are made of the header, if that holds no encoded
word, and none of their mailboxes holds the end of a line. -/
theorem isOf_addressesOf {s : Glyphs} (hplain : ¬ MayHoldWord s)
    {addresses : List Address} (h : addressesOf s = .ok addresses) :
    MadeOf (addresses.flatMap Address.glyphs) s ∧
    ∀ a ∈ addresses, ∀ m ∈ a.mailboxes, m.isBroken = false := by
  unfold addressesOf at h
  split at h
  · next readings rest hread =>
    obtain ⟨t, ⟨ht, hunbroken⟩, hrest⟩ :=
      draws_readAddresses hplain s readings rest (.refl s) hread
    have hleft : MadeOf t s :=
      (MadeOf.of_sublist (List.sublist_append_left t rest)).trans hrest
    obtain rfl := eq_map_of_mapM h
    rw [List.flatMap_map] at ht
    exact ⟨ht.trans hleft, fun a ha => hunbroken a (List.mem_map_of_mem ha)⟩
  · cases h
  · obtain rfl := Except.ok.inj h
    exact ⟨.nil s, fun _ ha => (List.not_mem_nil ha).elim⟩

/-- The text of the addresses of a header is that of each, with commas between
them. -/
theorem addressText_eq (s : Glyphs) :
    addressText s = (addressesOf s).map fun addresses =>
      Text.join comma (addresses.map Address.text) := by
  unfold addressText
  cases addressesOf s <;> rfl

/-- The text of the addresses of a header is made of the header, if that
holds no encoded word. -/
theorem madeOf_addressText {s : Glyphs} (hplain : ¬ MayHoldWord s) :
    MadeOf (told id (addressText s)) s := by
  rw [addressText_eq]
  cases hread : addressesOf s with
  | error e => exact .nil _
  | ok addresses =>
      exact (madeOf_join_map madeOf_text addresses).trans
        (isOf_addressesOf hplain hread).1

theorem draws_readTightLiteral {source : Glyphs} :
    Draws source [] readTightLiteral (Taking id) := by
  refine .skim (.expect _) fun _ =>
    draws_readLiteralText.bind fun text t htext => ?_
  exact .skim (.expect _) fun _ =>
    .pure ((htext.cons_mark (by decide)).append_mark (by decide))

section Readers

variable {source : Glyphs} (hplain : ¬ MayHoldWord source)

include hplain

theorem draws_readWrittenDomain :
    Draws source [] readWrittenDomain (Taking id) := by
  refine (draws_readDomain hplain).bind fun domain t hdomain => ?_
  exact .guard (.fail _) (.pure hdomain.1)

theorem draws_readMessageId : Draws source [] readMessageId (Taking id) := by
  unfold readMessageId
  refine .skim (.expect _) fun _ => draws_readDotAtomText.bind
    fun left t₁ hleft => .skim (.expect _) fun _ => ?_
  have hright : Draws source [] ((Core.written <$> readDotAtomText).orElse
      (readTightLiteral.orElse readWrittenDomain)) (Taking id) :=
    (draws_readDotAtomText.map fun _ _ h => h.1).orElse
      ((draws_readTightLiteral).orElse (draws_readWrittenDomain hplain))
  refine hright.next fun right t₂ hright => .skim (.skipIf _) fun _ => ?_
  refine draws_readGap?.next fun gap t₃ hgap => .pure ?_
  have hid :=
    (hleft.1.cons_mark (g := .char '<') (by decide)).append
      (hright.cons_mark (g := .char '@') (by decide))
  exact hid.append (hgap.cons_mark (g := .char '>') (by decide))

end Readers

/-- The text of a message id is made of the header, if that holds no encoded
word. -/
theorem madeOf_idText {s : Glyphs} (hplain : ¬ MayHoldWord s) :
    MadeOf (told id (idText s)) s := by
  unfold idText
  split
  · next text rest hread =>
    obtain ⟨t, ht, hrest⟩ :=
      draws_readMessageId hplain s text rest (.refl s) hread
    exact ht.trans
      ((MadeOf.of_sublist (List.sublist_append_left t rest)).trans hrest)
  · exact .nil _
  · rw [readFreeText_of_noWord fun h => hplain h.may]
    exact .refl s

end Notices.Email
