import Notices.Proofs.Addresses
import Notices.Proofs.Scan
import Notices.Proofs.Stamp

/-!
# Names that are encoded

The name of a sender that is not ASCII is written as an encoded word, with the
address in angle brackets behind it.  When the header is read the word is
decoded, so what the name brings with it is not what is written.

* `readEncodedWord?_encodedName` says that the encoded name is read as the name.
* `readMailbox_named` follows the reading from there: the name is the name of
  the mailbox, or its user if there is no address behind it.
* `mem_addressesOf_named` says what the addresses of the header hold: what
  stands behind the name, and what of the name is no end of a line.
-/

namespace Notices

/-- A text up to a separator is its first part. -/
theorem Text.parts_append_cons {α : Type} [DecidableEq α] {separator : α}
    {s : List α} (h : separator ∉ s) (rest : List α) :
    Text.parts separator (s ++ separator :: rest) =
      s :: Text.parts separator rest := by
  induction s with
  | nil => simp [Text.parts]
  | cons c s ih =>
      have hc : c ≠ separator := fun heq => h (by simp [heq])
      have hs : separator ∉ s := fun hmem => h (by simp [hmem])
      simp [Text.parts, hc, ih hs]

namespace Email

/-! ## The encoded word -/

/-- The encoded word that stands for a name. -/
def encodedName (name : List Char) : List Char :=
  "=?utf-8?b?".toList ++ Text.base64 (Text.utf8 name) ++ "?=".toList

@[simp] theorem ofText_append (s t : List Char) :
    ofText (s ++ t) = ofText s ++ ofText t := List.map_append

/-- The bytes of a text are decoded to the text. -/
theorem decodeBy?_utf8 (s : List Char) :
    Charset.decodeBy? Text.frontUtf8 (Text.utf8 s) = some (ofText s) := by
  induction s with
  | nil =>
      rw [Charset.decodeBy?.eq_def]
      rfl
  | cons c rest ih =>
      obtain ⟨b, tail, hbytes, hfront⟩ :=
        Text.exists_frontUtf8_eq c (Text.utf8 rest)
      have hutf8 : Text.utf8 (c :: rest) = b :: (tail ++ Text.utf8 rest) := by
        rw [← List.cons_append, ← hbytes]
        rfl
      rw [hutf8, Charset.decodeBy?, hfront]
      simp [ih, ofText]

/-- The name of the charset is known. -/
theorem decodeNamed?_utf8 (s : List Char) :
    decodeNamed? (ofText "utf-8".toList) (Text.utf8 s) = some (ofText s) := by
  have husual : Charset.usualName "utf-8".toList = "utf_8".toList := by
    decide +kernel
  have hknown : Charset.ofName? "utf-8".toList = some (.utf8 false) := by
    unfold Charset.ofName?
    rw [husual]
    rfl
  have hname : (ofText "utf-8".toList).mapM Glyph.char? =
      some "utf-8".toList := by decide +kernel
  have hzero : "utf-8".toList.contains '\x00' = false := by decide +kernel
  unfold decodeNamed?
  rw [hname]
  dsimp only
  rw [hzero, hknown]
  exact decodeBy?_utf8 s

/-- The bytes of ASCII characters. -/
theorem mapM_wordByte? {s : List Char} (h : ∀ c ∈ s, c.toNat < 128) :
    (ofText s).mapM wordByte? = some (s.map Text.asciiByte) := by
  induction s with
  | nil => rfl
  | cons c rest ih =>
      have hc : wordByte? (.char c) = some (Text.asciiByte c) :=
        if_pos (h c List.mem_cons_self)
      have hrest := ih fun d hd => h d (List.mem_cons_of_mem c hd)
      unfold ofText at hrest ⊢
      rw [List.map_cons, List.mapM_cons, hc, hrest]
      rfl

/-- Nothing in base64 is a question mark, and all of it is ASCII. -/
theorem base64_plain {bytes : List UInt8} {c : Char}
    (h : c ∈ Text.base64 bytes) : c.toNat < 128 ∧ c ≠ '?' := by
  rcases Text.mem_base64 h with rfl | ⟨n, rfl⟩
  · decide
  · exact ⟨(Text.base64Char_plain n).1, (Text.base64Char_plain n).2.2⟩

variable {name : List Char}

/-- A name has bytes if it is not empty. -/
theorem utf8_ne_nil (hname : name ≠ []) : Text.utf8 name ≠ [] := by
  cases name with
  | nil => exact absurd rfl hname
  | cons c rest =>
      obtain ⟨b, tail, hbytes, -⟩ := Text.exists_frontUtf8_eq c []
      simp [Text.utf8, hbytes]

/-- The inside of an encoded name. -/
def insideName (name : List Char) : Glyphs :=
  ofText ("utf-8?b?".toList ++ Text.base64 (Text.utf8 name))

theorem notMem_base64 (bytes : List UInt8) :
    Glyph.char '?' ∉ ofText (Text.base64 bytes) := by
  intro hmem
  obtain ⟨c, hc, heq⟩ := List.mem_map.mp hmem
  exact (base64_plain hc).2 (Glyph.char.inj heq)

/-- The mark at the end of an encoded name is the first one in it. -/
theorem cut_insideName (hname : name ≠ []) (rest : Glyphs) :
    Text.cut wordEnd (insideName name ++ wordEnd ++ rest) =
      some (insideName name, rest) := by
  obtain ⟨n, digits, hdigits⟩ := Text.exists_base64_eq_cons (utf8_ne_nil hname)
  have hend : wordEnd = [.char '?', .char '='] := rfl
  let text := ofText (Text.base64 (Text.utf8 name))
  let after := text ++ ([.char '?', .char '='] ++ rest)
  have hwhole : insideName name ++ [.char '?', .char '='] ++ rest =
      ofText "utf-8".toList ++
        .char '?' :: .char 'b' :: .char '?' :: after := by
    simp [insideName, after, text, ofText]
  have hcharset : Glyph.char '?' ∉ ofText "utf-8".toList := by decide
  -- neither of the two question marks inside has an equals sign behind it
  have hmark : ¬ [.char '?', .char '='] <+:
      Glyph.char '?' :: .char 'b' :: .char '?' :: after := by simp
  have hletter : ¬ [.char '?', .char '='] <+:
      Glyph.char 'b' :: .char '?' :: after := by simp
  have hlast : ¬ [.char '?', .char '='] <+: Glyph.char '?' :: after := by
    simp [after, text, hdigits, ofText, Ne.symm (Text.base64Char_plain n).2.1]
  rw [hend, hwhole, Text.cut_append_of_not_mem hcharset, Text.cut_cons hmark,
    Text.cut_cons hletter,
    Text.cut_cons hlast, Text.cut_append_of_not_mem (notMem_base64 _),
      Text.cut_self_append]
  simp [insideName, ofText]

/-- The text of an encoded name is the name. -/
theorem decodeWord?_insideName (name : List Char) :
    decodeWord? (insideName name) = some (ofText name) := by
  have hparts : Text.parts (.char '?') (insideName name) =
      [ofText "utf-8".toList, ofText "b".toList,
        ofText (Text.base64 (Text.utf8 name))] := by
    have hwhole : insideName name =
        ofText "utf-8".toList ++ .char '?' ::
          (ofText "b".toList ++
            .char '?' :: ofText (Text.base64 (Text.utf8 name))) := by
      simp [insideName, ofText]
    rw [hwhole, Text.parts_append_cons (by decide),
      Text.parts_append_cons (by decide),
      Text.parts_of_notMem (notMem_base64 _)]
  have hbytes : wordBytes? (ofText "b".toList)
      ((Text.base64 (Text.utf8 name)).map Text.asciiByte) =
      some (Text.utf8 name) := by
    have hread := Text.readBase64?_base64 (Text.utf8 name)
    show some ((Text.readBase64? _).getD _) = _
    rw [hread, Option.getD_some]
  have hcharset : (ofText "utf-8".toList).takeWhile (· != .char '*') =
      ofText "utf-8".toList := by decide
  unfold decodeWord?
  rw [hparts]
  simp only [mapM_wordByte? fun c hc => (base64_plain hc).1,
    Option.bind_eq_bind, Option.bind_some, hbytes, hcharset,
    decodeNamed?_utf8]

/-- An encoded name before a space is read as the name. -/
theorem readEncodedWord?_encodedName (hname : name ≠ []) (rest : Glyphs) :
    readEncodedWord? (ofText (encodedName name) ++ .char ' ' :: rest) =
      some (ofText name, .char ' ' :: rest) := by
  have hmark : ofText "=?utf-8?b?".toList =
      .char '=' :: .char '?' :: ofText "utf-8?b?".toList := by decide
  have hwhole : ofText (encodedName name) ++ .char ' ' :: rest =
      .char '=' :: .char '?' ::
        (insideName name ++ wordEnd ++ .char ' ' :: rest) := by
    unfold encodedName insideName wordEnd
    rw [ofText_append, ofText_append, ofText_append, hmark]
    simp only [List.append_assoc, List.cons_append]
  have hdigits :
      (Glyph.char ' ' :: rest).takeWhile (·.isIn isHexDigit) = [] := by
    rw [List.takeWhile_cons_of_neg]
    decide
  have hsplit : splitWord? (ofText (encodedName name) ++ .char ' ' :: rest) =
      some (insideName name, .char ' ' :: rest) := by
    rw [hwhole]
    unfold splitWord?
    simp only [cut_insideName hname, hdigits]
    simp
  unfold readEncodedWord?
  rw [hsplit]
  simp only [Option.bind_eq_bind, Option.bind_some, decodeWord?_insideName]
  rfl

/-! ## Reading it as a name -/

namespace Reader

variable {α : Type} {step : Reader (Option α)} {s mid last : Glyphs} {a : α}
    {as more : List α}

theorem run_many_of_none (h : step s = .ok (none, last)) :
    many step s = .ok ([], last) := by
  rw [many, h]
  rfl

theorem run_many_of_some (h : step s = .ok (some a, mid))
    (hshorter : mid.length < s.length)
    (hmore : many step mid = .ok (more, last)) :
    many step s = .ok (a :: more, last) := by
  rw [many, h]
  simp only [bind, Except.bind, dif_pos hshorter, hmore]
  rfl

/-- What is read again and again is what a first step reads, and
what is read behind it. -/
theorem exists_of_run_many (h : many step s = .ok (as, last)) :
    ∃ found mid, step s = .ok (found, mid) ∧ (found = none ∧ as = [] ∨
      ∃ a, found = some a ∧
        (as = [a] ∨
          ∃ more, as = a :: more ∧ many step mid = .ok (more, last))) := by
  rw [many] at h
  obtain ⟨⟨found, mid⟩, hstep, hrest⟩ := exists_of_bind_eq_ok h
  refine ⟨found, mid, hstep, ?_⟩
  cases found with
  | none =>
      obtain ⟨rfl, rfl⟩ := Prod.mk.inj (Except.ok.inj hrest)
      exact .inl ⟨rfl, rfl⟩
  | some a =>
      refine .inr ⟨a, rfl, ?_⟩
      dsimp only at hrest
      split at hrest
      · obtain ⟨⟨more, left⟩, hmore, hend⟩ := exists_of_bind_eq_ok hrest
        obtain ⟨rfl, rfl⟩ := Prod.mk.inj (Except.ok.inj hend)
        exact .inr ⟨more, rfl, hmore⟩
      · obtain ⟨rfl, rfl⟩ := Prod.mk.inj (Except.ok.inj hrest)
        exact .inl rfl

end Reader

/-- The space before an angle bracket is a gap. -/
theorem readGap?_space (rest : Glyphs) :
    readGap? (.char ' ' :: .char '<' :: rest) =
      .ok (some [.char ' '], .char '<' :: rest) := by
  have hfirst : gapPiece (.char ' ' :: .char '<' :: rest) =
      (some [.char ' '], .char '<' :: rest) := by
    have hspace : (Glyph.char ' ').isIn Text.isBlank = true := by decide
    have hopen : ¬ (Glyph.char '<').isIn Text.isBlank = true := by decide
    have hspan :
        (Glyph.char ' ' :: .char '<' :: rest).span (·.isIn Text.isBlank) =
        ([.char ' '], .char '<' :: rest) := by
      rw [List.span_eq_takeWhile_dropWhile, List.takeWhile_cons_of_pos hspace,
        List.takeWhile_cons_of_neg hopen, List.dropWhile_cons_of_pos hspace,
        List.dropWhile_cons_of_neg hopen]
    unfold gapPiece
    dsimp only
    rw [hspan]
    rfl
  have hpieces : (many gapPiece : StateM Glyphs (List Glyphs))
      (.char ' ' :: .char '<' :: rest) =
      ([[.char ' ']], .char '<' :: rest) := by
    have hrest : (many gapPiece : StateM Glyphs (List Glyphs))
        (.char '<' :: rest) = ([], .char '<' :: rest) := by
      rw [many]
      rfl
    rw [many, hfirst]
    simp only [bind, pure, List.length_cons, Nat.lt_add_one, dif_pos, hrest]
  have hgap : splitGap (.char ' ' :: .char '<' :: rest) =
      ([.char ' '], .char '<' :: rest) := by
    unfold splitGap
    rw [hpieces]
    rfl
  unfold readGap?
  rw [Reader.run_bind, Reader.run_nextIs]
  show (readGap >>= fun gap => pure (some gap)) _ = _
  rw [Reader.run_bind]
  show (Except.ok (splitGap _)).bind _ = _
  rw [hgap]
  rfl

/-- The encoded name of a sender as a word. -/
def nameWord (name : List Char) : Word :=
  ⟨none, { written := ofText name, value := collapse (ofText name) },
    some [.char ' ']⟩

/-- The encoded name of a sender, with the angle bracket and what is inside
behind it. -/
def named (name : List Char) (rest : Glyphs) : Glyphs :=
  ofText (encodedName name) ++ .char ' ' :: .char '<' :: rest

/-- An encoded name is a word, whatever else could be one in its place. -/
theorem withGaps_named {core : Reader Core} {rest : Glyphs}
    (hcore : core (named name rest) =
      .ok ((nameWord name).core, .char ' ' :: .char '<' :: rest)) :
    withGaps core (named name rest) =
      .ok (nameWord name, .char '<' :: rest) := by
  have hbefore : readGap? (named name rest) = .ok (none, named name rest) := rfl
  unfold withGaps
  rw [Reader.run_bind, hbefore]
  show (core >>= fun core => readGap? >>= fun after => pure _)
      (named name rest) = _
  rw [Reader.run_bind, hcore]
  show (readGap? >>= fun after => pure _) _ = _
  rw [Reader.run_bind, readGap?_space]
  rfl

section EncodedName

variable (hname : name ≠ []) (rest : Glyphs)

include hname

theorem readEncoded_named : readEncoded (named name rest) =
    .ok ((nameWord name).core, .char ' ' :: .char '<' :: rest) := by
  have hempty : (ofText name).isEmpty = false := by simpa [ofText] using hname
  unfold readEncoded
  simp only [bind, StateT.bind, get, getThe, MonadStateOf.get, StateT.get, pure,
    Except.pure, Except.bind, named, readEncodedWord?_encodedName hname, hempty]
  rfl

theorem readWord_named :
    readWord (named name rest) = .ok (nameWord name, .char '<' :: rest) := by
  refine withGaps_named ?_
  have hquote : Reader.nextIs (· == '"') (named name rest) =
      .ok (false, named name rest) := rfl
  rw [Reader.run_bind, hquote]
  exact Reader.run_orElse_of_ok (readEncoded_named hname rest)

theorem readDotAtom_named :
    readDotAtom (named name rest) = .ok (nameWord name, .char '<' :: rest) :=
  withGaps_named (Reader.run_orElse_of_ok (readEncoded_named hname rest))

theorem readPhrase_named :
    readPhrase (named name rest) =
      .ok ([.word (nameWord name)], .char '<' :: rest) := by
  refine Reader.run_many_of_some ?_ ?_
    (Reader.run_many_of_none (s := .char '<' :: rest) rfl)
  · have hpart : readWordOrGap (named name rest) =
        .ok (.word (nameWord name), .char '<' :: rest) := by
      refine Reader.run_orElse_of_ok ?_
      rw [Reader.run_map, readWord_named hname]
      rfl
    show (readWordOrGap >>= fun part => pure (some part)) (named name rest) = _
    rw [Reader.run_bind, hpart]
    rfl
  · simp [named]
    omega

/-- No group has an encoded name with an angle bracket behind it. -/
theorem readGroup_named : readGroup (named name rest) = .error .mismatch := by
  unfold readGroup
  rw [Reader.run_bind, readPhrase_named hname]
  rfl

theorem readNamed_named : readNamed (named name rest) =
    (readAngles (.char '<' :: rest)).map fun read =>
      (read.1.mailbox (.ok (collapse (ofText name))), read.2) := by
  have hphrase : nameOf [.word (nameWord name)] =
      .ok (collapse (ofText name)) := by
    show Except.ok
        ((gapValue none ++ collapse (ofText name) ++ gapValue none) ++ []) = _
    simp [gapValue]
  have hgap : readGap? (named name rest) = .ok (none, named name rest) := rfl
  have hover : Reader.atEnd (named name rest) =
      .ok (false, named name rest) := rfl
  have hangle : Reader.nextIs (· == '<') (named name rest) =
      .ok (false, named name rest) := rfl
  have hends : Reader.nextIs endsPhrase (named name rest) =
      .ok (false, named name rest) := rfl
  have hleft : Reader.atEnd (.char '<' :: rest) =
      .ok (false, .char '<' :: rest) := rfl
  have hpure {α : Type} (a : α)
      (s : Glyphs) : (pure a : Reader α) s = .ok (a, s) := rfl
  unfold readNamed
  simp only [Reader.run_bind, hgap, hover, hangle, hends,
    readPhrase_named hname, hleft, Except.bind, Bool.false_eq_true, if_false,
    hpure, hphrase]
  cases readAngles (.char '<' :: rest) <;> rfl

/-- An encoded name by itself is taken for a user. -/
theorem readPlace_named : readPlace (named name rest) =
    .ok (⟨.ok (collapse (ofText name)), []⟩, .char '<' :: rest) := by
  have hword : readWord? (named name rest) =
      .ok (some (nameWord name), .char '<' :: rest) := by
    refine Reader.run_orElse_of_ok ?_
    rw [Reader.run_map, Reader.run_orElse_of_ok (readDotAtom_named hname rest)]
    rfl
  have huser : readUser (named name rest) =
      .ok (.ok (collapse (ofText name)), .char '<' :: rest) := by
    have hgap : readGap? (named name rest) = .ok (none, named name rest) := rfl
    have hover : Reader.atEnd (named name rest) =
        .ok (false, named name rest) := rfl
    have hends (p : Char → Bool) : Reader.nextIs p (.char '<' :: rest) =
        .ok (p '<', .char '<' :: rest) := rfl
    have hleft : Reader.atEnd (.char '<' :: rest) =
        .ok (false, .char '<' :: rest) := rfl
    unfold readUser
    simp only [Reader.run_bind, hover, hgap, hword, hleft, hends, Except.bind,
      Bool.false_eq_true, if_false]
    rfl
  unfold readPlace
  rw [Reader.run_bind, huser]
  rfl

/-- A mailbox with an encoded name is read as one with the name, or as one
with the name for a user. -/
theorem readMailbox_named : readMailbox (named name rest) =
    match readAngles (.char '<' :: rest) with
    | .ok (place, left) =>
      .ok (place.mailbox (.ok (collapse (ofText name))), left)
    | .error .mismatch =>
      .ok (Place.mailbox ⟨.ok (collapse (ofText name)), []⟩ (.ok []),
        .char '<' :: rest)
    | .error (.error e) => .error (.error e) := by
  unfold readMailbox Reader.orElse
  rw [readNamed_named hname]
  cases readAngles (.char '<' :: rest) with
  | ok read => rfl
  | error stop =>
      cases stop with
      | error e => rfl
      | mismatch =>
          show (readPlace >>= fun place => pure (place.mailbox (.ok [])))
              (named name rest) = _
          rw [Reader.run_bind, readPlace_named hname]
          rfl

/-- The mailbox that is read is of the name and of what is behind it,
or there is an error. -/
theorem readMailbox_named_cases (hplain : ¬ MayHoldWord (.char '<' :: rest)) :
    (∃ e, readMailbox (named name rest) = .error (.error e)) ∨
      ∃ reading left, readMailbox (named name rest) = .ok (reading, left) ∧
        Mailbox.IsOf reading (collapse (ofText name) ++ .char '<' :: rest) ∧
        MadeOf left (.char '<' :: rest) := by
  rw [readMailbox_named hname]
  cases hangles : readAngles (.char '<' :: rest) with
  | ok read =>
      obtain ⟨place, left⟩ := read
      obtain ⟨t, hplace, hrest⟩ :=
        draws_readAngles hplain _ _ _ (.refl _) hangles
      have hsource : MadeOf t (.char '<' :: rest) :=
        (MadeOf.of_sublist (List.sublist_append_left t left)).trans hrest
      have hleft : MadeOf left (.char '<' :: rest) :=
        (MadeOf.of_sublist (List.sublist_append_right t left)).trans hrest
      exact .inr
        ⟨_, left, rfl,
          Place.isOf_mailbox ((MadeOf.refl _).append (hplace.trans hsource)),
          hleft⟩
  | error stop =>
      cases stop with
      | error e => exact .inl ⟨e, rfl⟩
      | mismatch =>
          refine .inr ⟨_, _, rfl, Place.isOf_mailbox ?_, .refl _⟩
          have hshown : MadeOf (collapse (ofText name))
              (collapse (ofText name) ++ .char '<' :: rest) :=
            (MadeOf.refl _).extend_right _
          simpa [told, Place.glyphs] using hshown

theorem readItem_named : readItem (named name rest) =
    match readMailbox (named name rest) with
    | .ok (reading, left) => .ok (some fun _ => .mailbox <$> reading, left)
    | .error .mismatch =>
      readStray (fun _ => .ok (.mailbox .nobody)) (· == ',') (named name rest)
    | .error (.error e) => .error (.error e) := by
  have hgroup : (Group.address <$> readGroup) (named name rest) =
      .error .mismatch := by
    rw [Reader.run_map, readGroup_named hname]
    rfl
  have haddress : readAddress (named name rest) =
      (readMailbox (named name rest)).map fun read =>
        (fun _ => .mailbox <$> read.1, read.2) := by
    unfold readAddress
    rw [Reader.run_orElse_of_mismatch hgroup, Reader.run_map]
  unfold readItem Reader.orElse
  rw [Reader.run_map, haddress]
  cases readMailbox (named name rest) with
  | ok read => rfl
  | error stop => cases stop <;> rfl

/-- The first address is that of the mailbox that is read. -/
theorem readNext_named (hplain : ¬ MayHoldWord (.char '<' :: rest))
    {found : Option (Option (Except MailError Address))} {mid : Glyphs}
    (h : readNext (named name rest) = .ok (found, mid)) :
    MadeOf mid (.char '<' :: rest) ∧
    ∃ reading, found = some (some (.mailbox <$> reading)) ∧
      Mailbox.IsOf reading (collapse (ofText name) ++ .char '<' :: rest) := by
  have hitem : (readItem >>= endItem) (named name rest) = .ok (found, mid) := h
  rw [Reader.run_bind, readItem_named hname] at hitem
  rcases readMailbox_named_cases hname rest hplain with ⟨e, hread⟩ |
    ⟨reading, left, hread, hof, hleft⟩
  · rw [hread] at hitem
    cases hitem
  · rw [hread] at hitem
    obtain ⟨t, ⟨rfl, isFollowed, rfl⟩, hmid⟩ :=
      draws_endItem hplain [] _ left found mid hleft hitem
    exact ⟨hmid.trans hleft, reading, rfl, hof⟩

/-- The readings of a header with an encoded name at its front: one of the name
and what is behind it, and others that are made of what is behind. -/
theorem readAddresses_named (hplain : ¬ MayHoldWord (.char '<' :: rest))
    {readings : List (Except MailError Address)} {left : Glyphs}
    (h : readAddresses (named name rest) = .ok (readings, left)) :
    ∃ reading more, readings = (.mailbox <$> reading) :: more ∧
      Mailbox.IsOf reading (collapse (ofText name) ++ .char '<' :: rest) ∧
      MadeOf (more.flatMap (told Address.glyphs)) (.char '<' :: rest) := by
  rw [readAddresses_eq] at h
  obtain ⟨⟨items, last⟩, hmany, hend⟩ := exists_of_bind_eq_ok h
  obtain ⟨rfl, rfl⟩ := Prod.mk.inj (Except.ok.inj hend)
  obtain ⟨found, mid, hnext, hcases⟩ := Reader.exists_of_run_many hmany
  obtain ⟨hmid, reading, rfl, hof⟩ := readNext_named hname rest hplain hnext
  rcases hcases with ⟨hnone, -⟩ | ⟨item, hitem, hitems⟩
  · cases hnone
  · obtain rfl := Option.some.inj hitem
    rcases hitems with rfl | ⟨more, rfl, hmore⟩
    · exact ⟨reading, [], rfl, hof, .nil _⟩
    · obtain ⟨t, heach, hrest⟩ :=
        Draws.many (draws_readNext hplain) mid more last hmid hmore
      have hsource : MadeOf t (.char '<' :: rest) :=
        ((MadeOf.of_sublist (List.sublist_append_left t last)).trans
          hrest).trans hmid
      exact ⟨reading, more.filterMap id, rfl, hof,
        (heach.filterMap fun _ _ h => h.1).trans hsource⟩

/-- What an encoded name brings into the addresses of a header holds no end of a
line. -/
theorem mem_addressesOf_named (hplain : ¬ MayHoldWord (.char '<' :: rest))
    {addresses : List Address}
    (h : addressesOf (named name rest) = .ok addresses) {g : Glyph}
    (hmark : g.isIn isMark = false)
    (hmem : g ∈ addresses.flatMap Address.glyphs) :
    g ∈ rest ∨
    g ∈ collapse (ofText name) ∧ g ≠ .char '\r' ∧ g ≠ .char '\n' := by
  have hbehind (hg : g ∈ Glyph.char '<' :: rest) : g ∈ rest := by
    rcases List.mem_cons.mp hg with rfl | hg
    · exact absurd hmark (by decide)
    · exact hg
  unfold addressesOf at h
  split at h
  · next readings left hread =>
    obtain ⟨reading, more, rfl, hof, hmore⟩ :=
      readAddresses_named hname rest hplain hread
    cases reading with
    | error e => cases h
    | ok m =>
        obtain ⟨first, others, rfl⟩ : ∃ first others,
            addresses = first :: others := by
          cases addresses with
          | nil => cases eq_map_of_mapM h
          | cons first others => exact ⟨first, others, rfl⟩
        obtain ⟨hfirst, rfl⟩ := List.cons.inj (eq_map_of_mapM h)
        obtain rfl : Address.mailbox m = first := Except.ok.inj hfirst
        rw [List.flatMap_cons] at hmem
        rcases List.mem_append.mp hmem with hmem | hmem
        · have hends := List.any_eq_false.mp (hof.2 m rfl) g hmem
          rcases List.mem_append.mp (hof.1.mem hmem hmark) with hg | hg
          · refine .inr ⟨hg, ?_, ?_⟩
            all_goals
              rintro rfl
              exact hends rfl
          · exact .inl (hbehind hg)
        · rw [List.flatMap_map] at hmore
          exact .inl (hbehind (hmore.mem hmem hmark))
  · cases h
  · obtain rfl := Except.ok.inj h
    exact (List.not_mem_nil hmem).elim

end EncodedName

end Email

end Notices
