import Mathlib.Data.List.TakeDrop
import Mathlib.Data.List.TakeWhile
import Notices.Proofs.Halves
import Notices.Proofs.Letter

/-!
# What is generated

Some of what a run leaves is made up on the way: the ids and the times of the
log's documents, and the numbers in the ids of mails.  Two runs that do the same
differ in these, so they are taken out before anything is compared.

* `Message.unnumbered`, `Submission.unnumbered` and `Outcome.unnumbered`
  take out the id of a mail, and `Fields.unstamped` takes out what is
  generated of a document.
* `Mail.unnumbered_compose?` says that a mail is composed alike under all
  numbers, and `Letter.unstamped_attempt` that the document of an attempt is the
  same for outcomes that are.
-/

namespace Notices

/-! ## Message ids with other numbers -/

/-- A text without a separator is its only part. -/
theorem Text.parts_of_notMem {α : Type} [DecidableEq α] {separator : α}
    {s : List α} (h : separator ∉ s) : Text.parts separator s = [s] := by
  induction s with
  | nil => rfl
  | cons c rest ih =>
      have hc : c ≠ separator := fun heq => h (by simp [heq])
      have hrest : separator ∉ rest := fun hmem => h (by simp [hmem])
      simp [Text.parts, hc, ih hrest]

namespace Email

/-- Glyphs that separate no lines can be put before a text. -/
theorem spansLines_append {front : Glyphs}
    (h : ∀ g ∈ front, g.isIn Text.isLineSeparator = false) (s : Glyphs) :
    spansLines (front ++ s) = spansLines s := by
  induction front with
  | nil => rfl
  | cons g rest ih =>
      have hg := h g List.mem_cons_self
      have hne : g ≠ .char '\r' := by
        rintro rfl
        revert hg
        decide
      rw [← ih fun x hx => h x (List.mem_cons_of_mem g hx), List.cons_append,
        spansLines]
      · simp [hg]
      · exact fun _ heq _ => hne heq

/-- The left side of the id of a message with a number. -/
def idLeft (number : Nat) : List Char := "msg-".toList ++ natText number

theorem endsAtom_of_isDigit {c : Char} (h : c.isDigit = true) :
    endsAtom c = false := by
  refine Bool.eq_false_iff.mpr fun hends => ?_
  have hmem : c ∈
      ['(', ')', '<', '>', '@', ',', ':', ';', '.', '\\', '"', '[', ']', ' ',
        '\t'] := by
    simpa [endsAtom, isSpecial, isSpace, or_assoc] using hends
  have hnone :
      ['(', ')', '<', '>', '@', ',', ':', ';', '.', '\\', '"', '[', ']', ' ',
        '\t'].all
      (!·.isDigit) = true := by decide
  have hc := List.all_eq_true.mp hnone c hmem
  simp [h] at hc

theorem isLineSeparator_of_isDigit {c : Char} (h : c.isDigit = true) :
    Text.isLineSeparator c = false := by
  have hrange : 48 ≤ c.toNat ∧ c.toNat ≤ 57 := by
    delta Char.isDigit at h
    simpa [UInt32.le_iff_toNat_le] using h
  simp only [Text.isLineSeparator, Bool.or_eq_false_iff, Bool.and_eq_false_iff,
    beq_eq_false_iff_ne, decide_eq_false_iff_not]
  omega

/-- The left side of an id has only characters that an atom can hold and
that separate no lines. -/
theorem plain_idLeft {number : Nat} {c : Char} (h : c ∈ idLeft number) :
    endsAtom c = false ∧ Text.isLineSeparator c = false := by
  rcases List.mem_append.mp h with hmark | hdigit
  · have hplain : "msg-".toList.all
        (fun d => !endsAtom d && !Text.isLineSeparator d) = true := by decide
    simpa using List.all_eq_true.mp hplain c hmark
  · have hc := Nat.isDigit_of_mem_toDigits (by decide) (by decide) hdigit
    exact ⟨endsAtom_of_isDigit hc, isLineSeparator_of_isDigit hc⟩

/-- An atom is read up to a character that it cannot hold. -/
theorem readDotAtomText_append {left : Glyphs} (hne : left ≠ [])
    (hleft : ∀ g ∈ left, g.isIn endsAtom = false) (rest : Glyphs) :
    readDotAtomText (left ++ .char '@' :: rest) =
      .ok (⟨left, left, false⟩, .char '@' :: rest) := by
  have hspan : (left ++ .char '@' :: rest).span
      (fun g => g = .char '.' || !g.isIn endsAtom) =
      (left, .char '@' :: rest) := by
    rw [List.span_eq_takeWhile_dropWhile, List.takeWhile_append_of_pos,
      List.dropWhile_append_of_pos]
    · simp [Glyph.isIn, endsAtom, isSpecial]
    all_goals
      intro g hg
      simp [hleft g hg]
  have hpoint : Glyph.char '.' ∉ left := fun hmem => by
    have := hleft _ hmem
    revert this
    decide
  have hlabels : hasEmptyLabel left = false := by
    simp [hasEmptyLabel, Text.parts_of_notMem hpoint, hne]
  have hempty : List.isEmpty left = false := by simpa using hne
  unfold readDotAtomText
  simp only [bind, StateT.bind, get, getThe, MonadStateOf.get, StateT.get, pure,
    Except.pure, Except.bind, hspan, hlabels, hempty]
  rfl

/-- What is read of a message id behind the sign in its middle: the
right side and a gap. -/
def readIdRight : Reader (Glyphs × Option Glyphs) := do
  let right ← (Core.written <$> readDotAtomText).orElse
      (readTightLiteral.orElse readWrittenDomain)
  let _ ← Reader.skipIf '>'
  let gap ← readGap?
  return (right, gap)

/-- A message id whose left side is an atom is read if its right side is. -/
theorem readMessageId_eq {left : Glyphs} (hne : left ≠ [])
    (hleft : ∀ g ∈ left, g.isIn endsAtom = false) (rest : Glyphs) :
    readMessageId (.char '<' :: (left ++ .char '@' :: rest)) =
      (readIdRight rest).map fun read =>
        (.char '<' :: left ++ .char '@' :: read.1.1 ++
          .char '>' :: read.1.2.getD [], read.2) := by
  have hdot := readDotAtomText_append hne hleft rest
  have hopen : Reader.expect '<' (.char '<' :: (left ++ .char '@' :: rest)) =
    .ok ((), left ++ .char '@' :: rest) := rfl
  have hmiddle : Reader.expect '@' (.char '@' :: rest) = .ok ((), rest) := rfl
  unfold readMessageId readIdRight
  simp only [bind, StateT.bind, Except.bind, hopen, hdot, hmiddle]
  cases ((Core.written <$> readDotAtomText).orElse
    (readTightLiteral.orElse readWrittenDomain)) rest with
  | error stop => rfl
  | ok right =>
      dsimp only
      cases Reader.skipIf '>' right.2 with
      | error stop => rfl
      | ok closed =>
          dsimp only
          cases readGap? closed.2 with
          | error stop => rfl
          | ok gap => rfl

/-- The text that an id is set from, in its parts. -/
theorem writtenId_eq (d : Draft) (number : Nat) :
    d.writtenId number = .char '<' ::
      (ofText (idLeft number) ++ .char '@' :: (d.idDomain ++ [.char '>'])) := by
  simp [Draft.writtenId, idLeft, ofText]

/-- Whether the text of an id spans lines is up to the domain. -/
theorem spansLines_writtenId (d : Draft) (number : Nat) :
    spansLines (d.writtenId number) =
      spansLines (d.idDomain ++ [.char '>']) := by
  have hplain : ∀ g ∈ .char '<' :: (ofText (idLeft number) ++ [.char '@']),
      g.isIn Text.isLineSeparator = false := by
    intro g hg
    rcases List.mem_cons.mp hg with rfl | hg
    · decide
    · rcases List.mem_append.mp hg with hg | hg
      · obtain ⟨c, hc, rfl⟩ := List.mem_map.mp hg
        exact (plain_idLeft hc).2
      · obtain rfl := List.mem_singleton.mp hg
        decide
  have happend := spansLines_append hplain (d.idDomain ++ [.char '>'])
  rw [writtenId_eq, ← happend]
  simp

/-- The text of an id is read as an id if its right side is. -/
theorem readMessageId_writtenId (d : Draft) (number : Nat) :
    readMessageId (d.writtenId number) =
      (readIdRight (d.idDomain ++ [.char '>'])).map fun read =>
        (.char '<' :: ofText (idLeft number) ++ .char '@' :: read.1.1 ++
          .char '>' :: read.1.2.getD [], read.2) := by
  have hne : ofText (idLeft number) ≠ [] := by simp [ofText, idLeft]
  have hleft : ∀ g ∈ ofText (idLeft number), g.isIn endsAtom = false := by
    intro g hg
    obtain ⟨c, hc, rfl⟩ := List.mem_map.mp hg
    exact (plain_idLeft hc).1
  rw [writtenId_eq]
  exact readMessageId_eq hne hleft _

/-- The text of an id is read under all numbers, or it fails under each for the
same reason. -/
theorem idText_writtenId (d : Draft) :
    ∃ texts : Except MailError (Nat → Glyphs), ∀ number,
      idText (d.writtenId number) = texts.map (· number) := by
  -- whether it is read is up to the right side, in which there is no number
  cases hright : readIdRight (d.idDomain ++ [.char '>']) with
  | ok read =>
      refine ⟨.ok fun number => .char '<' :: ofText (idLeft number) ++
        .char '@' :: read.1.1 ++ .char '>' :: read.1.2.getD [],
          fun number => ?_⟩
      rw [idText, readMessageId_writtenId, hright]
      rfl
  | error stop =>
      cases stop with
      | error e =>
          refine ⟨.error e, fun number => ?_⟩
          rw [idText, readMessageId_writtenId, hright]
          rfl
      | mismatch =>
          refine ⟨.ok fun number => readFreeText (d.writtenId number),
            fun number => ?_⟩
          rw [idText, readMessageId_writtenId, hright]
          rfl

/-- The text that the id of a mail is set from has bytes. -/
theorem hasBytes_writtenId (m : Mail) (number : Nat) :
    HasBytes (m.draft.writtenId number) := by
  have hdomain : HasBytes m.draft.idDomain := by
    unfold Draft.idDomain
    dsimp only
    split
    · exact hasBytes_ofText _
    · intro g hg
      have hmem := (List.takeWhile_prefix _).subset (List.mem_reverse.mp hg)
      exact hasBytes_ofText _ g (List.mem_reverse.mp hmem)
  rw [writtenId_eq]
  have hright : HasBytes (.char '@' :: (m.draft.idDomain ++ [.char '>'])) :=
    (hdomain.append (HasBytes.nil.cons '>')).cons '@'
  exact ((hasBytes_ofText (idLeft number)).append hright).cons '<'

/-- The ids of a mail can be set under all numbers, or each fails for the same
reason. -/
theorem messageId?_uniform (m : Mail) :
    ∃ ids : Except MailError (Nat → String), ∀ number,
      m.draft.messageId? number = ids.map (· number) := by
  cases hspans : spansLines (m.draft.idDomain ++ [.char '>']) with
  | true =>
      refine ⟨.error .spansLines, fun number => ?_⟩
      unfold Draft.messageId? header
      rw [spansLines_writtenId, hspans]
      rfl
  | false =>
      obtain ⟨texts, htexts⟩ := idText_writtenId m.draft
      refine ⟨texts.map fun text number => String.ofList (toText (text number)),
        fun number => ?_⟩
      -- no half of a pair stands for no byte, so that the text can be set
      have hbytes := hasBytes_idText (hasBytes_writtenId m number)
      unfold Draft.messageId? header
      rw [spansLines_writtenId, hspans]
      rw [htexts] at hbytes ⊢
      cases texts with
      | error e => rfl
      | ok text =>
          have htext : toText? (text number) = .ok (toText (text number)) :=
            toText?_eq_ok_iff.mpr ⟨hbytes, rfl⟩
          simp [bind, Except.bind, Except.map, htext]
          rfl

/-! ## Mails under other numbers -/

/-- A message without its id. -/
def Message.unnumbered (m : Message) : Message := { m with id := "" }

/-- What is handed to a mail server, without the id of the message. -/
def Submission.unnumbered (s : Submission) : Submission :=
  { s with message := s.message.unnumbered }

/-- A mail is composed to the same message under all numbers, but for the id. -/
theorem Mail.unnumbered_compose? (m : Mail) (number other : Nat) :
    (m.compose? number).map Message.unnumbered =
      (m.compose? other).map Message.unnumbered := by
  obtain ⟨ids, hids⟩ := messageId?_uniform m
  unfold Mail.compose? Draft.compose?
  cases m.draft.headers? with
  | error e => rfl
  | ok headers =>
      show (m.draft.finish headers number).map _ =
        (m.draft.finish headers other).map _
      unfold Draft.finish
      rw [hids, hids]
      cases ids with
      | error e => rfl
      | ok ids =>
          simp only [Except.map, bind, Except.bind]
          cases body? m.draft.text with
          | error e => rfl
          | ok text => cases body? m.draft.html <;> rfl

end Email

/-! ## Outcomes and documents without what is generated -/

/-- An outcome on a channel without the id of the mail, if it has one.  The id
of a text message is given by its provider and stays. -/
def Outcome.unnumbered : Channel → Outcome → Outcome
  | .email, .delivered (some _) => .delivered (some "")
  | _, outcome => outcome

namespace Outcome

theorem isDelivered_unnumbered (channel : Channel) (outcome : Outcome) :
    (outcome.unnumbered channel).isDelivered = outcome.isDelivered := by
  rcases outcome with ⟨_ | id⟩ | cause <;> cases channel <;> rfl

theorem error_unnumbered (channel : Channel) (outcome : Outcome) :
    (outcome.unnumbered channel).error = outcome.error := by
  rcases outcome with ⟨_ | id⟩ | cause <;> cases channel <;> rfl

theorem messageId_unnumbered (channel : Channel) (outcome : Outcome) :
    (outcome.unnumbered channel).messageId =
      outcome.messageId.map fun id => if channel = .email then "" else id := by
  rcases outcome with ⟨_ | id⟩ | cause <;> cases channel <;> rfl

end Outcome

/-- A value of a document's field without what is generated: an id of the log,
the id of a mail, or a time. -/
def Value.unstamped (isMail : Bool) (name : String) : Value → Value
  | .time _ => .string ""
  | .string s =>
      .string (if name = "log_id" ||
        (name = "external_id" && isMail) then "" else s)
  | v => v

/-- A document of the log without what is generated. -/
def Fields.unstamped (doc : Fields) : Fields :=
  let isMail := Store.hasText "type" Channel.email.word doc
  doc.map fun field => (field.1, field.2.unstamped isMail field.1)

namespace Value

@[simp] theorem unstamped_string (isMail : Bool) (name s : String) :
    (Value.string s).unstamped isMail name =
      .string (if name = "log_id" || (name = "external_id" && isMail) then ""
        else s) := rfl

@[simp] theorem unstamped_ofOption (isMail : Bool) (name : String)
    (o : Option String) :
    (Record.ofOption o).unstamped isMail name =
      Record.ofOption (o.map fun s =>
        if name = "log_id" || (name = "external_id" && isMail) then ""
          else s) := by
  cases o <;> rfl

@[simp] theorem unstamped_time (isMail : Bool) (name : String) (t : Timestamp) :
    (Value.time t).unstamped isMail name = .string "" := rfl

@[simp] theorem unstamped_ofTime (isMail : Bool) (name : String)
    (o : Option Timestamp) :
    (LogEntry.ofTime o).unstamped isMail name =
      Record.ofOption (o.map fun _ => "") := by
  cases o <;> rfl

end Value

/-- The document of an entry without what is generated. -/
theorem LogEntry.unstamped_toFields (e : LogEntry) :
    e.toFields.unstamped = [
      ("log_id", .string ""),
      ("template_id", Record.ofOption e.templateId),
      ("customer_id", Record.ofOption e.customerId),
      ("recipient", .string e.recipient),
      ("type", .string e.channel.word),
      ("subject", Record.ofOption e.subject),
      ("body", .string e.body),
      ("status", .string e.status.word),
      ("error_message", Record.ofOption e.error),
      ("external_id",
        Record.ofOption
          (e.externalId.map fun id => if e.channel = .email then "" else id)),
      ("invoice_id", Record.ofOption e.invoiceId),
      ("shipment_id", Record.ofOption e.shipmentId),
      ("release_id", Record.ofOption e.releaseId),
      ("created_at", .string ""),
      ("sent_at", Record.ofOption (e.sentAt.map fun _ => ""))] := by
  have hmail : Store.hasText "type" Channel.email.word e.toFields =
      decide (e.channel = .email) :=
    Store.hasText_type_toFields e .email
  unfold Fields.unstamped
  rw [hmail]
  simp [LogEntry.toFields]

/-- The document of an attempt to send a letter is the same for outcomes that
are, but for what is generated. -/
theorem Letter.unstamped_attempt (l : Letter) (templateId : String)
    (links : Links) {outcome other : Outcome}
    (h : outcome.unnumbered l.channel = other.unnumbered l.channel)
    (id id' : String) (now now' : Timestamp) :
    ((l.attempt templateId links outcome).stamp id now).toFields.unstamped =
      ((l.attempt templateId links other).stamp id'
        now').toFields.unstamped := by
  have hdelivered := Outcome.isDelivered_unnumbered l.channel outcome
  have herror := Outcome.error_unnumbered l.channel outcome
  have hid := Outcome.messageId_unnumbered l.channel outcome
  rw [h, Outcome.isDelivered_unnumbered] at hdelivered
  rw [h, Outcome.error_unnumbered] at herror
  rw [h, Outcome.messageId_unnumbered] at hid
  rw [LogEntry.unstamped_toFields, LogEntry.unstamped_toFields]
  simp only [Letter.attempt, Attempt.stamp, ← hdelivered, ← herror, ← hid]
  by_cases hsent : other.isDelivered = true
  · simp only [hsent, if_true]
    rfl
  · simp only [hsent]
    rfl

end Notices
