import Notices.Markup.Conditional
import Notices.Markup.Substitute

/-!
# The passes over a template, character by character

Both passes over a template jump from one tag to the next.  They do what a scan
does that looks at one position after the other.

* `substitute_placeholder` and `substitute_cons` are the two steps of such a
  scan for the first pass: at a placeholder that has a text, and anywhere else.
* `conditionals_block` and `conditionals_cons` are those of the second pass: at
  a block that is closed, and anywhere else.
* `substitute_plain` and `conditionals_plain` say that a text without `{` in
  front of another one is kept.
* `conditionals_sublist` says that the second pass only ever leaves characters
  out.
-/

namespace Notices.Text

variable {α : Type} [DecidableEq α] {pat s q t : List α} {a c : α}

/-- A pattern is found where it stands. -/
theorem cut_self_append (pat s : List α) :
    cut pat (pat ++ s) = some ([], s) := by
  cases pat with
  | nil => cases s <;> simp [cut]
  | cons a pat => simp [cut]

/-- A pattern that does not stand at the front is looked for behind the first
character. -/
theorem cut_cons (h : ¬ pat <+: c :: s) :
    cut pat (c :: s) = (cut pat s).map fun parts =>
      (c :: parts.1, parts.2) := by
  have hprefix : ¬ pat.isPrefixOf (c :: s) = true :=
    fun hp => h (List.isPrefixOf_iff_prefix.mp hp)
  rw [cut, if_neg hprefix]

/-- A pattern is not found in a text of which it is no part. -/
theorem cut_eq_none_iff : cut pat s = none ↔ ¬ pat <:+: s := by
  constructor
  · intro hnone hpart
    obtain ⟨before, after, rfl⟩ := hpart
    induction before with
    | nil =>
        rw [List.nil_append, cut_self_append] at hnone
        cases hnone
    | cons c before ih =>
        by_cases hprefix : pat <+: c :: (before ++ pat ++ after)
        · obtain ⟨rest, hrest⟩ := hprefix
          simp only [List.cons_append] at hnone
          rw [← hrest, cut_self_append] at hnone
          cases hnone
        · simp only [List.cons_append] at hnone
          rw [cut_cons hprefix] at hnone
          exact ih (Option.map_eq_none_iff.mp hnone)
  · intro hpart
    cases hcut : cut pat s with
    | none => rfl
    | some parts =>
        obtain ⟨before, after⟩ := parts
        exact absurd ⟨before, after, (eq_append_of_cut hcut).symm⟩ hpart

/-- A pattern does not begin in a text without its first character. -/
theorem cut_append_of_not_mem (h : a ∉ q) :
    cut (a :: pat) (q ++ t) = (cut (a :: pat) t).map fun parts =>
      (q ++ parts.1, parts.2) := by
  induction q with
  | nil => simp
  | cons c q ih =>
      have hc : ¬ (a :: pat) <+: c :: (q ++ t) :=
        fun hp => h (by simp [(List.cons_prefix_cons.mp hp).1])
      rw [List.cons_append, cut_cons hc,
        ih fun hq => h (List.mem_cons_of_mem c hq), Option.map_map]
      rfl

end Notices.Text

namespace Notices.Markup

open Text

/-- A scan that keeps every character but an opening brace keeps what
has no opening brace. -/
theorem append_of_step {f : List Char → List Char}
    (hstep : ∀ c s, c ≠ '{' → f (c :: s) = c :: f s) {q : List Char}
    (hplain : '{' ∉ q) (t : List Char) : f (q ++ t) = q ++ f t := by
  induction q with
  | nil => rfl
  | cons c q ih =>
      have hc : c ≠ '{' := fun heq => hplain (by simp [heq])
      have hrest : f (q ++ t) = q ++ f t :=
        ih fun hq => hplain (List.mem_cons_of_mem c hq)
      rw [List.cons_append, hstep c (q ++ t) hc, hrest, List.cons_append]

/-! ## The first pass -/

section Substitute

variable {fill : List Char → Option (List Char)} {name text s t q : List Char}
    {c : Char}

/-- What the first pass does, without the facts that make it end. -/
theorem substitute_eq (fill : List Char → Option (List Char)) (t : List Char) :
    substitute fill t =
      match cut opening t with
      | none => t
      | some (before, inside) =>
        match cut closing inside with
        | none => t
        | some (name, after) =>
          match filled fill name with
          | some text => before ++ text ++ substitute fill after
          | none => before ++ '{' :: substitute fill ('{' :: inside) := by
  fun_cases substitute fill t with
  | case1 hcut => simp only [hcut]
  | case2 before inside hcut hclose => simp only [hcut, hclose]
  | case3 before inside hcut name after hclose text hfilled =>
      simp only [hcut, hclose, hfilled]
  | case4 before inside hcut name after hclose hfilled =>
      simp only [hcut, hclose, hfilled]

/-- A name has neither an opening nor a closing brace. -/
theorem not_mem_of_isName (hname : isName name = true)
    (hc : isNameChar c = false) : c ∉ name := by
  intro hmem
  have hall := (Bool.and_eq_true_iff.mp hname).2
  rw [List.all_eq_true.mp hall c hmem] at hc
  cases hc

/-- A name is its first character and others. -/
theorem exists_cons_of_isName (hname : isName name = true) :
    ∃ c rest, name = c :: rest ∧ isNameChar c = true := by
  cases name with
  | nil => cases hname
  | cons c rest =>
      have hall := (Bool.and_eq_true_iff.mp hname).2
      exact ⟨c, rest, rfl, List.all_eq_true.mp hall c (List.mem_cons_self ..)⟩

/-- What stands behind the braces of a placeholder is cut at the next closing
braces. -/
theorem cut_closing_of_isName (hname : isName name = true) (t : List Char) :
    cut closing (name ++ closing ++ t) = some (name, t) := by
  have hbrace : '}' ∉ name := not_mem_of_isName hname (by decide)
  have hfound : cut ['}', '}'] (closing ++ t) = some ([], t) :=
    cut_self_append closing t
  rw [List.append_assoc]
  show cut ['}', '}'] (name ++ (closing ++ t)) = some (name, t)
  rw [cut_append_of_not_mem hbrace, hfound]
  simp

/-- The first pass puts the text of a placeholder in its place. -/
theorem substitute_placeholder (hname : isName name = true)
    (hfill : fill name = some text) (t : List Char) :
    substitute fill (placeholder name ++ t) = text ++ substitute fill t := by
  have hopen : cut opening (placeholder name ++ t) =
      some ([], name ++ closing ++ t) := by
    have hfound := cut_self_append opening (name ++ closing ++ t)
    simpa [placeholder] using hfound
  have hfilled : filled fill name = some text := by
    rw [filled, if_pos hname, hfill]
  rw [substitute_eq, hopen]
  simp only [cut_closing_of_isName hname, hfilled, List.nil_append]

/-- The first pass keeps a text in which no tag ends. -/
theorem substitute_of_cut_eq_none (h : cut closing s = none) :
    substitute fill s = s := by
  rw [substitute_eq]
  split
  · rfl
  · next before inside hcut =>
    have hpart : ¬ closing <:+: inside := by
      intro hpart
      apply cut_eq_none_iff.mp h
      rw [eq_append_of_cut hcut]
      exact List.infix_append_of_infix_right hpart
    rw [cut_eq_none_iff.mpr hpart]

/-- The first pass keeps the first character of a text that begins with no
placeholder that has a text. -/
theorem substitute_cons
    (h : ∀ name rest, isName name = true → c :: s = placeholder name ++ rest →
      fill name = none) :
    substitute fill (c :: s) = c :: substitute fill s := by
  by_cases hopen : opening <+: c :: s
  · obtain ⟨inside, hinside⟩ := hopen
    obtain ⟨rfl, rfl⟩ : c = '{' ∧ s = '{' :: inside := by
      simpa [opening] using hinside.symm
    rw [substitute_eq, ← hinside, cut_self_append]
    dsimp only
    cases hclose : cut closing inside with
    | none =>
        -- the pass ends here, and a scan that went on would find no tag either
        have hrest : cut closing ('{' :: inside) = none := by
          have hnot : ¬ closing <+: '{' :: inside := by simp [closing]
          rw [cut_cons hnot, hclose]
          rfl
        rw [substitute_of_cut_eq_none hrest, hinside]
    | some parts =>
        obtain ⟨name, after⟩ := parts
        have hfilled : filled fill name = none := by
          unfold filled
          split
          · next hname =>
            apply h name after hname
            rw [← hinside, eq_append_of_cut hclose]
            simp [placeholder]
          · rfl
        dsimp only
        rw [hfilled]
        rfl
  · rw [substitute_eq, substitute_eq fill s, cut_cons hopen]
    cases hcut : cut opening s with
    | none => rfl
    | some parts =>
        dsimp only [Option.map_some]
        cases hclose : cut closing parts.2 with
        | none => rfl
        | some parts =>
            dsimp only
            split <;> rfl

/-- The first pass keeps what has no opening brace. -/
theorem substitute_plain (hplain : '{' ∉ q) (t : List Char) :
    substitute fill (q ++ t) = q ++ substitute fill t := by
  refine append_of_step (fun c s hc => ?_) hplain t
  apply substitute_cons
  intro name rest _ heq
  exact absurd (List.cons.inj heq).1 hc

/-- The first pass keeps two opening braces and what follows without another
one, if that is no placeholder that has a text. -/
theorem substitute_braces (hplain : '{' ∉ c :: q)
    (h : ∀ name rest, isName name = true →
      c :: q ++ t = name ++ closing ++ rest → fill name = none) :
    substitute fill (opening ++ c :: q ++ t) = opening ++ c :: q ++
      substitute fill t := by
  have hfirst : substitute fill ('{' :: '{' :: (c :: q ++ t)) =
      '{' :: substitute fill ('{' :: (c :: q ++ t)) := by
    apply substitute_cons
    intro name rest hname heq
    apply h name rest hname
    simpa [placeholder, opening] using heq
  have hsecond : substitute fill ('{' :: (c :: q ++ t)) =
      '{' :: substitute fill (c :: q ++ t) := by
    apply substitute_cons
    intro name rest hname heq
    have hc : c = '{' := by
      simp only [placeholder, opening, List.cons_append, List.cons.injEq] at heq
      exact heq.2.1
    exact absurd (by simp [hc]) hplain
  show substitute fill ('{' :: '{' :: (c :: q ++ t)) =
      '{' :: '{' :: (c :: q ++ substitute fill t)
  rw [hfirst, hsecond, substitute_plain hplain]

/-- The first pass keeps a placeholder that has no text. -/
theorem substitute_unfilled (hname : isName name = true)
    (hfill : fill name = none) (t : List Char) :
    substitute fill (placeholder name ++ t) = placeholder name ++
      substitute fill t := by
  obtain ⟨c, q, rfl, hc⟩ := exists_cons_of_isName hname
  have hbrace : '{' ∉ c :: (q ++ closing) := by
    have hnot := not_mem_of_isName (c := '{') hname (by decide)
    simpa [closing] using hnot
  have hsame : ∀ other rest, isName other = true →
      c :: (q ++ closing) ++ t = other ++ closing ++ rest →
        fill other = none := by
    intro other rest hother heq
    have hcut := cut_closing_of_isName hname t
    rw [show c :: q ++ closing ++ t = other ++ closing ++ rest from heq,
      cut_closing_of_isName hother] at hcut
    rw [(Prod.mk.inj (Option.some.inj hcut)).1, hfill]
  have hkept : substitute fill (opening ++ c :: (q ++ closing) ++ t) =
      opening ++ c :: (q ++ closing) ++ substitute fill t :=
        substitute_braces hbrace hsame
  simpa [placeholder] using hkept

/-- The first pass keeps a tag that is no placeholder. -/
theorem substitute_tag (hplain : '{' ∉ c :: q) (hc : isNameChar c = false)
    (t : List Char) :
    substitute fill (opening ++ c :: q ++ t) = opening ++ c :: q ++
      substitute fill t := by
  apply substitute_braces hplain
  intro name rest hname heq
  obtain ⟨d, others, rfl, hd⟩ := exists_cons_of_isName hname
  have hcd : c = d := (List.cons.inj heq).1
  rw [hcd, hd] at hc
  cases hc

end Substitute

/-! ## The second pass -/

section Conditionals

variable {holds : List Char → Bool}
    {blanks name block body after s t q : List Char} {c : Char}

/-- What the second pass does, without the facts that make it end. -/
theorem conditionals_eq (holds : List Char → Bool) (t : List Char) :
    conditionals holds t =
      match cut blockOpening t with
      | none => t
      | some (before, inside) =>
        match readCondition? inside with
        | none =>
          before ++ '{' :: conditionals holds (blockOpening.drop 1 ++ inside)
        | some (name, block) =>
          match cut blockClosing block with
          | none => t
          | some (body, after) =>
            before ++ (if holds name then body else []) ++
              conditionals holds after := by
  fun_cases conditionals holds t with
  | case1 hcut => simp only [hcut]
  | case2 before inside hcut hread => simp only [hcut, hread]
  | case3 before inside hcut name block hread hclose =>
      simp only [hcut, hread, hclose]
  | case4 before inside hcut name block hread body after hclose =>
      simp only [hcut, hread, hclose]

/-- The tag that opens a block, with blanks in front of the name. -/
def blockTag (blanks name : List Char) : List Char :=
  blockOpening ++ blanks ++ name ++ closing

/-- Whether a text is the blanks of a tag, of which there is at least one. -/
def isBlanks (s : List Char) : Bool := !s.isEmpty && s.all isBlank

/-- The blanks of a tag are some characters that are all blank. -/
theorem isBlanks_iff :
    isBlanks s = true ↔ s ≠ [] ∧ ∀ c ∈ s, isBlank c = true := by
  simp [isBlanks]

/-- No character of a name is a blank. -/
theorem isBlank_eq_false_of_isNameChar (hc : isNameChar c = true) :
    isBlank c = false := by
  have hrange : c.toNat = 95 ∨ (65 ≤ c.toNat ∧ c.toNat ≤ 90) ∨
      (97 ≤ c.toNat ∧ c.toNat ≤ 122) ∨
      (48 ≤ c.toNat ∧ c.toNat ≤ 57) := by
    delta isNameChar Char.isAlphanum Char.isAlpha Char.isUpper Char.isLower
      Char.isDigit at hc
    simp only [Bool.or_eq_true, Bool.and_eq_true, decide_eq_true_eq, beq_iff_eq,
      UInt32.le_iff_toNat_le, ge_iff_le] at hc
    rcases hc with ((h | h) | h) | rfl
    · exact Or.inr (Or.inl h)
    · exact Or.inr (Or.inr (Or.inl h))
    · exact Or.inr (Or.inr (Or.inr h))
    · exact Or.inl rfl
  simp only [isBlank, isWhiteSpace, Bool.or_eq_false_iff, Bool.and_eq_false_iff,
    beq_eq_false_iff_ne, decide_eq_false_iff_not]
  omega

/-- Blanks, a name and the closing braces are read as a condition. -/
theorem readCondition?_append (hblanks : isBlanks blanks = true)
    (hname : isName name = true) (block : List Char) :
    readCondition? (blanks ++ name ++ closing ++ block) =
      some (name, block) := by
  have hskip : (blanks ++ name ++ closing ++ block).dropWhile isBlank =
      name ++ '}' :: '}' :: block := by
    obtain ⟨c, rest, rfl, hc⟩ := exists_cons_of_isName hname
    rw [List.append_assoc, List.append_assoc,
      List.dropWhile_append_of_pos (isBlanks_iff.mp hblanks).2]
    show List.dropWhile isBlank (c :: (rest ++ (closing ++ block))) = _
    rw [List.dropWhile_cons_of_neg
      (by simp [isBlank_eq_false_of_isNameChar hc])]
    rfl
  have hall : ∀ c ∈ name, isNameChar c = true :=
    List.all_eq_true.mp (Bool.and_eq_true_iff.mp hname).2
  have htaken : (name ++ '}' :: '}' :: block).takeWhile isNameChar = name := by
    rw [List.takeWhile_append_of_pos hall,
      List.takeWhile_cons_of_neg (by decide), List.append_nil]
  have hleft : (name ++ '}' :: '}' :: block).dropWhile isNameChar =
      '}' :: '}' :: block := by
    rw [List.dropWhile_append_of_pos hall,
      List.dropWhile_cons_of_neg (by decide)]
  have hnonempty : name.isEmpty = false := by
    simpa using (Bool.and_eq_true_iff.mp hname).1
  unfold readCondition?
  simp only [hskip, htaken, hleft, hnonempty]
  simp [closing, Nat.add_assoc, (isBlanks_iff.mp hblanks).1]

/-- What is read as a condition consists of blanks, a name and the closing
braces. -/
theorem eq_append_of_readCondition?
    (h : readCondition? s = some (name, block)) :
    ∃ blanks, isBlanks blanks = true ∧ isName name = true ∧
      s = blanks ++ name ++ closing ++ block := by
  simp only [readCondition?] at h
  split at h
  · cases h
  · next hnot =>
    split at h
    · next rest hrest =>
      obtain ⟨rfl, rfl⟩ := Prod.mk.inj (Option.some.inj h)
      simp only [Bool.or_eq_true, decide_eq_true_eq, not_or] at hnot
      have hs : s = s.takeWhile isBlank ++ s.dropWhile isBlank :=
        List.takeWhile_append_dropWhile.symm
      refine ⟨s.takeWhile isBlank,
        isBlanks_iff.mpr ⟨?_, List.all_eq_true.mp List.all_takeWhile⟩, ?_, ?_⟩
      · intro hnone
        rw [hnone, List.nil_append] at hs
        exact hnot.1 (congrArg List.length hs.symm)
      · simp [isName, hnot.2]
      · have hname :=
          List.takeWhile_append_dropWhile (p := isNameChar)
            (l := s.dropWhile isBlank)
        rw [hrest] at hname
        rw [List.append_assoc, List.append_assoc]
        show s = s.takeWhile isBlank ++ (_ ++ '}' :: '}' :: rest)
        rw [hname]
        exact hs
    · cases h

/-- The second pass keeps or drops a block that is closed. -/
theorem conditionals_block (hblanks : isBlanks blanks = true)
    (hname : isName name = true)
    (hclose : cut blockClosing block = some (body, after)) :
    conditionals holds (blockTag blanks name ++ block) =
      (if holds name then body else []) ++ conditionals holds after := by
  have hopen : cut blockOpening (blockTag blanks name ++ block) =
      some ([], blanks ++ name ++ closing ++ block) := by
    have hfound :=
      cut_self_append blockOpening (blanks ++ name ++ closing ++ block)
    simpa [blockTag] using hfound
  rw [conditionals_eq, hopen]
  simp only [readCondition?_append hblanks hname, hclose, List.nil_append]

/-- The second pass keeps a text in which no block ends. -/
theorem conditionals_of_cut_eq_none (h : cut blockClosing s = none) :
    conditionals holds s = s := by
  fun_induction conditionals holds s with
  | case1 => rfl
  | case2 s before inside hopen hread ih =>
      have hs := eq_append_of_cut hopen
      have hrest : cut blockClosing (blockOpening.drop 1 ++ inside) = none := by
        rw [cut_eq_none_iff] at h ⊢
        intro hpart
        apply h
        rw [hs, List.append_assoc]
        exact List.infix_append_of_infix_right (List.infix_cons hpart)
      rw [ih hrest, hs]
      simp [blockOpening]
  | case3 => rfl
  | case4 s before inside hopen name block hread body after hclose ih =>
      exfalso
      obtain ⟨blanks, -, -, rfl⟩ := eq_append_of_readCondition? hread
      apply cut_eq_none_iff.mp h
      rw [eq_append_of_cut hopen, eq_append_of_cut hclose]
      exact ⟨before ++ blockOpening ++ (blanks ++ name ++ closing ++ body),
        after, by simp⟩

/-- No closer begins in a text without an opening brace. -/
theorem cut_blockClosing_plain (hplain : '{' ∉ q) (t : List Char) :
    cut blockClosing (q ++ t) = (cut blockClosing t).map fun parts =>
      (q ++ parts.1, parts.2) :=
  cut_append_of_not_mem hplain

/-- What stands in a tag behind its braces has no opening brace. -/
theorem not_mem_of_condition (hblanks : isBlanks blanks = true)
    (hname : isName name = true) :
    '{' ∉ '#' :: 'i' :: 'f' :: (blanks ++ name ++ closing) := by
  have hgap : '{' ∉ blanks :=
    fun hmem => absurd ((isBlanks_iff.mp hblanks).2 '{' hmem) (by decide)
  have hnot := not_mem_of_isName (c := '{') hname (by decide)
  simp [closing, hgap, hnot]

/-- The first pass keeps the tag that opens a block. -/
theorem substitute_blockTag {fill : List Char → Option (List Char)}
    (hblanks : isBlanks blanks = true) (hname : isName name = true)
    (t : List Char) :
    substitute fill (blockTag blanks name ++ t) = blockTag blanks name ++
      substitute fill t := by
  let condition := 'i' :: 'f' :: (blanks ++ name ++ closing)
  have hkept : substitute fill (opening ++ '#' :: condition ++ t) =
      opening ++ '#' :: condition ++ substitute fill t :=
    substitute_tag (not_mem_of_condition hblanks hname) (by decide) t
  simpa [blockTag, blockOpening, opening, condition] using hkept

/-- Behind the first brace of a tag no block ends if none ends behind the
tag. -/
theorem cut_blockClosing_behind_brace (hblanks : isBlanks blanks = true)
    (hname : isName name = true) (hclose : cut blockClosing block = none) :
    cut blockClosing
      (blockOpening.drop 1 ++ (blanks ++ name ++ closing ++ block)) = none := by
  let condition := '#' :: 'i' :: 'f' :: (blanks ++ name ++ closing)
  have hplain : '{' ∉ condition := not_mem_of_condition hblanks hname
  have hbrace : ¬ blockClosing <+: '{' :: (condition ++ block) := by
    simp [blockClosing, condition]
  have hskip : cut blockClosing ('{' :: (condition ++ block)) = none := by
    rw [cut_cons hbrace, cut_blockClosing_plain hplain, hclose]
    rfl
  simpa [blockOpening, condition] using hskip

/-- The second pass keeps the first character of a text that begins with no
block that is closed. -/
theorem conditionals_cons
    (h : ∀ blanks name block, isBlanks blanks = true → isName name = true →
      c :: s = blockTag blanks name ++ block → cut blockClosing block = none) :
    conditionals holds (c :: s) = c :: conditionals holds s := by
  by_cases hopen : blockOpening <+: c :: s
  · obtain ⟨inside, hinside⟩ := hopen
    obtain ⟨rfl, rfl⟩ : c = '{' ∧ s = blockOpening.drop 1 ++ inside := by
      simpa [blockOpening] using hinside.symm
    rw [conditionals_eq, ← hinside, cut_self_append]
    dsimp only
    cases hread : readCondition? inside with
    | none => rfl
    | some parts =>
        obtain ⟨name, block⟩ := parts
        obtain ⟨blanks, hblanks, hname, rfl⟩ :=
          eq_append_of_readCondition? hread
        have hclose : cut blockClosing block = none := by
          apply h blanks name block hblanks hname
          rw [← hinside]
          simp [blockTag]
        -- the pass ends at a tag without closer, and a scan that went on would
        -- find no closer either
        have hrest := cut_blockClosing_behind_brace hblanks hname hclose
        dsimp only
        rw [hclose, hinside, conditionals_of_cut_eq_none hrest]
  · rw [conditionals_eq, conditionals_eq holds s, cut_cons hopen]
    cases hcut : cut blockOpening s with
    | none => rfl
    | some parts =>
        dsimp only [Option.map_some]
        cases hread : readCondition? parts.2 with
        | none => rfl
        | some found =>
            dsimp only
            split <;> rfl

/-- The second pass keeps what has no opening brace. -/
theorem conditionals_plain (hplain : '{' ∉ q) (t : List Char) :
    conditionals holds (q ++ t) = q ++ conditionals holds t := by
  refine append_of_step (fun c s hc => ?_) hplain t
  apply conditionals_cons
  intro blanks name block _ _ heq
  exact absurd (List.cons.inj heq).1 hc

/-- The second pass keeps two opening braces and what follows without another
one, if that opens no block. -/
theorem conditionals_braces (hplain : '{' ∉ c :: q) (hc : c ≠ '#')
    (t : List Char) :
    conditionals holds (opening ++ c :: q ++ t) = opening ++ c :: q ++
      conditionals holds t := by
  have hfirst : conditionals holds ('{' :: '{' :: (c :: q ++ t)) =
      '{' :: conditionals holds ('{' :: (c :: q ++ t)) := by
    apply conditionals_cons
    intro blanks name block _ _ heq
    have hhash : c = '#' := by
      simp only [blockTag, blockOpening, List.cons_append, List.cons.injEq]
        at heq
      exact heq.2.2.1
    exact absurd hhash hc
  have hsecond : conditionals holds ('{' :: (c :: q ++ t)) =
      '{' :: conditionals holds (c :: q ++ t) := by
    apply conditionals_cons
    intro blanks name block _ _ heq
    have hbrace : c = '{' := by
      simp only [blockTag, blockOpening, List.cons_append, List.cons.injEq]
        at heq
      exact heq.2.1
    exact absurd (by simp [hbrace]) hplain
  show conditionals holds ('{' :: '{' :: (c :: q ++ t)) =
      '{' :: '{' :: (c :: q ++ conditionals holds t)
  rw [hfirst, hsecond, conditionals_plain hplain]

/-- No closer begins in two opening braces and what follows without
another one or a slash. -/
theorem cut_blockClosing_braces (hplain : '{' ∉ c :: q) (hc : c ≠ '/')
    (t : List Char) :
    cut blockClosing (opening ++ c :: q ++ t) =
      (cut blockClosing t).map fun parts =>
        (opening ++ c :: q ++ parts.1, parts.2) := by
  have hfirst : ¬ blockClosing <+: '{' :: '{' :: (c :: q ++ t) := by
    simp [blockClosing, Ne.symm hc]
  have hbrace : c ≠ '{' := fun heq => hplain (by simp [heq])
  have hsecond : ¬ blockClosing <+: '{' :: (c :: q ++ t) := by
    simp [blockClosing, Ne.symm hbrace]
  show cut blockClosing ('{' :: '{' :: (c :: q ++ t)) = _
  rw [cut_cons hfirst, cut_cons hsecond, cut_blockClosing_plain hplain,
    Option.map_map, Option.map_map]
  rfl

/-- Behind the braces of a placeholder stands something without an opening
brace, which begins with a character of the name. -/
theorem placeholder_eq_braces (hname : isName name = true) :
    ∃ c q, placeholder name = opening ++ c :: q ∧ isNameChar c = true ∧
      '{' ∉ c :: q := by
  obtain ⟨c, q, rfl, hc⟩ := exists_cons_of_isName hname
  refine ⟨c, q ++ closing, by simp [placeholder], hc, ?_⟩
  have hnot := not_mem_of_isName (c := '{') hname (by decide)
  simpa [closing] using hnot

/-- The second pass keeps a placeholder. -/
theorem conditionals_placeholder (hname : isName name = true) (t : List Char) :
    conditionals holds (placeholder name ++ t) = placeholder name ++
      conditionals holds t := by
  obtain ⟨c, q, heq, hc, hplain⟩ := placeholder_eq_braces hname
  have hhash : c ≠ '#' := by
    rintro rfl
    exact absurd hc (by decide)
  rw [heq, conditionals_braces hplain hhash]

/-- No closer begins in a placeholder. -/
theorem cut_blockClosing_placeholder (hname : isName name = true)
    (t : List Char) :
    cut blockClosing (placeholder name ++ t) =
      (cut blockClosing t).map fun parts =>
        (placeholder name ++ parts.1, parts.2) := by
  obtain ⟨c, q, heq, hc, hplain⟩ := placeholder_eq_braces hname
  have hslash : c ≠ '/' := by
    rintro rfl
    exact absurd hc (by decide)
  rw [heq, cut_blockClosing_braces hplain hslash]

/-- The first pass keeps the tag that closes a block. -/
theorem substitute_blockClosing {fill : List Char → Option (List Char)}
    (t : List Char) :
    substitute fill (blockClosing ++ t) = blockClosing ++ substitute fill t :=
  substitute_tag (q := ['i', 'f', '}', '}']) (by decide) (by decide) t

/-- The second pass leaves characters out and puts none in. -/
theorem conditionals_sublist (holds : List Char → Bool) (t : List Char) :
    (conditionals holds t).Sublist t := by
  fun_induction conditionals holds t with
  | case1 t hcut => exact List.Sublist.refl t
  | case2 t before inside hcut hread ih =>
      have ht : t = before ++ '{' :: (blockOpening.drop 1 ++ inside) := by
        rw [eq_append_of_cut hcut]
        simp [blockOpening]
      rw [ht]
      exact (ih.cons_cons '{').append_left before
  | case3 t before inside hcut name block hread hclose =>
      exact List.Sublist.refl t
  | case4 t before inside hcut name block hread body after hclose ih =>
      obtain ⟨blanks, -, -, hinside⟩ := eq_append_of_readCondition? hread
      have hbody : (if holds name then body else []).Sublist body := by
        split
        · exact List.Sublist.refl body
        · exact List.nil_sublist body
      have hblock :
          ((if holds name then body else []) ++
            conditionals holds after).Sublist block := by
        rw [eq_append_of_cut hclose, List.append_assoc]
        exact hbody.append
          (ih.trans (List.sublist_append_right blockClosing after))
      have hinner : block.Sublist (blockOpening ++ inside) := by
        rw [hinside, ← List.append_assoc]
        exact List.sublist_append_right _ block
      rw [eq_append_of_cut hcut, List.append_assoc, List.append_assoc]
      exact (hblock.trans hinner).append_left before

end Conditionals

end Notices.Markup
