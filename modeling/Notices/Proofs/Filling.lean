import Notices.Proofs.Meaning
import Notices.Proofs.Replacement

/-!
# Filling in one field after the other

The first pass goes through a template once and fills in all fields on its way.
It is easier to say what is meant without a pass: take the fields in any order,
and put the spelling of each one in the place of its placeholders.  The two are
not the same for all templates and data, since this looks again at what an
earlier field put down.  For templates that are written with care and values
without an opening brace they are.

* `replaceEvery` replaces one placeholder wherever it stands, and
  `replaceInTurn` takes one field after the other.
* `substitute_eq_replaceEvery` says that the first pass does the former if
  only one name has a text.
* `substitute_filled` says that two passes over a template come to one pass,
  which asks the texts of the first pass and then those of the second.
* `replaceInTurn_filled` says what is left of a template when some of
  the fields have been taken.
* `fields_can_be_taken_in_any_order` says that all fields taken in any
  order come to the first pass.
-/

namespace Notices.Text

/-- The pattern at which a text is cut does not stand before that place. -/
theorem not_infix_before {α : Type} [DecidableEq α]
    {pat s before after : List α} (hpat : pat ≠ [])
    (hcut : cut pat s = some (before, after)) : ¬ pat <:+: before := by
  rintro ⟨early, late, hbefore⟩
  have hs : s = early ++ pat ++ (late ++ pat ++ after) := by
    rw [eq_append_of_cut hcut, ← hbefore]
    simp only [List.append_assoc]
  have hfirst := length_before_le hcut hs
  have hpos := List.length_pos_iff.mpr hpat
  rw [← hbefore] at hfirst
  simp only [List.length_append] at hfirst
  omega

end Notices.Text

namespace Notices.Markup

open Text

/-! ## One placeholder -/

/-- Replaces the placeholder of a name by a text wherever it stands, from left
to right. -/
def replaceEvery (name text t : List Char) : List Char :=
  match _ : cut (placeholder name) t with
  | none => t
  | some (before, after) => before ++ text ++ replaceEvery name text after
termination_by t.length
decreasing_by
  exact length_after_lt (by simp [placeholder, opening])
    ‹cut (placeholder name) t = _›

section OnePlaceholder

variable {fill : List Char → Option (List Char)} {name text : List Char}

/-- The first pass with a text for one name only replaces the
placeholder of this name. -/
theorem substitute_eq_replaceEvery (hname : isName name = true)
    (hfill : fill name = some text)
    (honly : ∀ other, other ≠ name → fill other = none) (t : List Char) :
    substitute fill t = replaceEvery name text t := by
  have hkept : ∀ s, ¬ placeholder name <:+: s → substitute fill s = s := by
    intro s hnot
    apply substitute_of_not_infix
    intro other found _ hfound hpart
    by_cases hother : other = name
    · exact hnot (hother ▸ hpart)
    · rw [honly other hother] at hfound
      cases hfound
  fun_induction replaceEvery name text t with
  | case1 t hcut => exact hkept t (cut_eq_none_iff.mp hcut)
  | case2 t before after hcut ih =>
      have hbefore : substitute fill before = before :=
        hkept before (not_infix_before (by simp [placeholder, opening]) hcut)
      rw [eq_append_of_cut hcut, substitute_around_placeholder hname hfill,
        hbefore, ih]

end OnePlaceholder

/-! ## Tokens -/

/-- A part of a template that is gone through as a whole: a piece, or a tag of a
block.  The tags need not make up blocks. -/
inductive Token where
  | piece (p : Piece)
  | blockStart (gap : Gap) (name : Name)
  | blockEnd

/-- What is left of a piece when its placeholder is replaced by the text for its
name, if there is one. -/
def Piece.filled (fill : List Char → Option (List Char)) : Piece → List Char
  | .text plain => plain.chars
  | .slot name => (fill name.chars).getD (placeholder name.chars)

namespace Token

/-- The text of a token. -/
def print : Token → List Char
  | .piece p => p.print
  | .blockStart gap name => blockTag gap.chars name.chars
  | .blockEnd => blockClosing

/-- The names of the placeholders of a token. -/
def slots : Token → List Name
  | .piece p => p.slots
  | .blockStart _ _ => []
  | .blockEnd => []

/-- What is left of a token when placeholders are replaced. -/
def filled (fill : List Char → Option (List Char)) : Token → List Char
  | .piece p => p.filled fill
  | .blockStart gap name => blockTag gap.chars name.chars
  | .blockEnd => blockClosing

end Token

section Passes

variable {first second : List Char → Option (List Char)}

/-- The texts put no opening brace in the place of some names. -/
def FillsPlain (fill : List Char → Option (List Char)) (names : List Name) :
    Prop :=
  ∀ name ∈ names, ∀ text, fill name.chars = some text → '{' ∉ text

/-- A piece is as it was written if no name has a text. -/
theorem Piece.filled_none (p : Piece) : p.filled (fun _ => none) = p.print := by
  cases p <;> rfl

/-- A token is as it was written if no name has a text. -/
theorem Token.filled_none (token : Token) :
    token.filled (fun _ => none) = token.print := by
  cases token with
  | piece p => exact p.filled_none
  | blockStart gap name => rfl
  | blockEnd => rfl

/-- A pass over what an earlier pass left of a piece. -/
theorem substitute_filled_piece {p : Piece} (hplain : FillsPlain first p.slots)
    (t : List Char) :
    substitute second (p.filled first ++ t) =
      p.filled (fun name => (first name).or (second name)) ++
        substitute second t := by
  cases p with
  | text plain => exact substitute_plain plain.plain t
  | slot name =>
      cases hfirst : first name.chars with
      | some text =>
          have hbrace : '{' ∉ text :=
            hplain name (List.mem_singleton_self name) text hfirst
          simp only [Piece.filled, hfirst, Option.getD_some, Option.some_or]
          exact substitute_plain hbrace t
      | none =>
          simp only [Piece.filled, hfirst, Option.getD_none, Option.none_or]
          cases hsecond : second name.chars with
          | some text =>
              rw [Option.getD_some]
              exact substitute_placeholder name.isName hsecond t
          | none =>
              rw [Option.getD_none]
              exact substitute_unfilled name.isName hsecond t

/-- A pass over what an earlier pass left of a token. -/
theorem substitute_filled_token {token : Token}
    (hplain : FillsPlain first token.slots) (t : List Char) :
    substitute second (token.filled first ++ t) =
      token.filled (fun name => (first name).or (second name)) ++
        substitute second t := by
  cases token with
  | piece p => exact substitute_filled_piece hplain t
  | blockStart gap name => exact substitute_blockTag gap.isBlanks name.isName t
  | blockEnd => exact substitute_blockClosing t

/-- Two passes, one after the other, come to one pass that asks for the texts of
the first and then for those of the second. -/
theorem substitute_filled {tokens : List Token}
    (hplain : FillsPlain first (tokens.flatMap Token.slots)) :
    substitute second (tokens.flatMap (Token.filled first)) =
      tokens.flatMap
        (Token.filled fun name => (first name).or (second name)) := by
  have htoken : ∀ token ∈ tokens, ∀ t,
      substitute second (token.filled first ++ t) =
      token.filled (fun name => (first name).or (second name)) ++
        substitute second t := by
    intro token htoken t
    have hslots : FillsPlain first token.slots := fun name hname =>
      hplain name (List.mem_flatMap.mpr ⟨token, htoken, hname⟩)
    exact substitute_filled_token hslots t
  exact scan_flatMap_end substitute_nil htoken

/-- One pass over a template replaces the placeholders of its tokens. -/
theorem substitute_print (tokens : List Token) :
    substitute second (tokens.flatMap Token.print) =
      tokens.flatMap (Token.filled second) := by
  have hnone : FillsPlain (fun _ => none) (tokens.flatMap Token.slots) := by
    intro name _ text htext
    cases htext
  have hpass : substitute second (tokens.flatMap (Token.filled fun _ => none)) =
      tokens.flatMap (Token.filled fun name => Option.or none (second name)) :=
        substitute_filled hnone
  simpa only [Option.none_or, funext Token.filled_none] using hpass

end Passes

/-! ## One field after the other -/

section InTurn

variable {escape : List Char → List Char} {data : Fields}

/-- Puts the escaped spelling of a field in the place of its placeholders, if
the field is there and not null. -/
def replaceField (escape : List Char → List Char) (data : Fields)
    (t : List Char) (key : String) : List Char :=
  match data.present? key with
  | some v => replaceEvery key.toList (escape v.spell) t
  | none => t

/-- Takes one field after the other. -/
def replaceInTurn (escape : List Char → List Char) (data : Fields)
    (keys : List String) (t : List Char) :
    List Char :=
  keys.foldl (replaceField escape data) t

/-- The texts that some of the fields put in the place of their placeholders. -/
def insertionOf (escape : List Char → List Char) (data : Fields)
    (keys : List String) (name : List Char) :
    Option (List Char) :=
  if String.ofList name ∈ keys then insertion escape data name else none

/-- The texts of some fields and of further ones are those of all of them. -/
theorem insertionOf_append (done keys : List String) (name : List Char) :
    (insertionOf escape data done name).or (insertionOf escape data keys name) =
      insertionOf escape data (done ++ keys) name := by
  unfold insertionOf
  by_cases hdone : String.ofList name ∈ done
  · rw [if_pos hdone, if_pos (List.mem_append_left keys hdone)]
    by_cases hkeys : String.ofList name ∈ keys
    · rw [if_pos hkeys, Option.or_self]
    · rw [if_neg hkeys, Option.or_none]
  · rw [if_neg hdone, Option.none_or]
    by_cases hkeys : String.ofList name ∈ keys
    · rw [if_pos hkeys, if_pos (List.mem_append_right done hkeys)]
    · have hnone : String.ofList name ∉ done ++ keys := by simp [hdone, hkeys]
      rw [if_neg hkeys, if_neg hnone]

/-- The texts of all fields are those that the first pass puts in. -/
theorem insertionOf_eq {keys : List String}
    (hall : ∀ field ∈ data, field.1 ∈ keys) :
    insertionOf escape data keys = insertion escape data := by
  funext name
  unfold insertionOf
  by_cases hkey : String.ofList name ∈ keys
  · rw [if_pos hkey]
  · have hmissing : data.get? (String.ofList name) = none :=
      Fields.get?_eq_none_iff.mpr fun field hfield heq =>
        hkey (heq ▸ hall field hfield)
    rw [if_neg hkey]
    simp [insertion, Fields.present?, hmissing]

/-- The texts of some fields have no opening brace if those of all fields have
none. -/
theorem fillsPlain_insertionOf {names : List Name}
    (hputs : PutsNoBrace escape data names) (keys : List String) :
    FillsPlain (insertionOf escape data keys) names := by
  intro name hname text htext
  unfold insertionOf at htext
  by_cases hkey : String.ofList name.chars ∈ keys
  · rw [if_pos hkey] at htext
    obtain ⟨v, hv, rfl⟩ := Option.map_eq_some_iff.mp htext
    exact hputs name hname v hv
  · rw [if_neg hkey] at htext
    cases htext

/-- To take a field is to pass over the text once with its text only. -/
theorem replaceField_eq {key : String} (hkey : isName key.toList = true)
    (t : List Char) :
    replaceField escape data t key =
      substitute (insertionOf escape data [key]) t := by
  have honly : ∀ other, other ≠ key.toList →
      insertionOf escape data [key] other = none := by
    intro other hother
    apply if_neg
    intro hmem
    apply hother
    rw [← List.mem_singleton.mp hmem, String.toList_ofList]
  have hself : insertionOf escape data [key] key.toList =
      (data.present? key).map fun v => escape v.spell := by
    simp [insertionOf, insertion]
  unfold replaceField
  cases hthere : data.present? key with
  | some v =>
      rw [hthere] at hself
      exact (substitute_eq_replaceEvery hkey hself honly t).symm
  | none =>
      symm
      apply substitute_of_not_infix
      intro name text _ htext
      by_cases hname : name = key.toList
      · rw [hname, hself, hthere] at htext
        cases htext
      · rw [honly name hname] at htext
        cases htext

/-- When some of the fields have been taken, a template has the placeholders of
these replaced and no other. -/
theorem replaceInTurn_filled {tokens : List Token} {keys : List String}
    (hputs : PutsNoBrace escape data (tokens.flatMap Token.slots))
    (hkeys : ∀ key ∈ keys, isName key.toList = true) (done : List String) :
    replaceInTurn escape data keys
      (tokens.flatMap (Token.filled (insertionOf escape data done))) =
      tokens.flatMap
        (Token.filled (insertionOf escape data (done ++ keys))) := by
  -- on the fields that are still to be taken, for any that were taken before
  induction keys generalizing done with
  | nil =>
      rw [List.append_nil]
      rfl
  | cons key keys ih =>
      have hstep : replaceField escape data
          (tokens.flatMap (Token.filled (insertionOf escape data done))) key =
          tokens.flatMap
            (Token.filled (insertionOf escape data (done ++ [key]))) := by
        rw [replaceField_eq (hkeys key (List.mem_cons_self ..)),
          substitute_filled (fillsPlain_insertionOf hputs done)]
        simp only [insertionOf_append]
      have hrest :=
        ih (fun other hother => hkeys other (List.mem_cons_of_mem key hother))
          (done ++ [key])
      rw [List.append_assoc, List.singleton_append] at hrest
      rw [replaceInTurn, List.foldl_cons, hstep]
      exact hrest

/-- All fields taken one after the other come to the first pass. -/
theorem replaceInTurn_eq_fillIn {tokens : List Token} {keys : List String}
    (hputs : PutsNoBrace escape data (tokens.flatMap Token.slots))
    (hnames : ∀ key ∈ data.map Prod.fst, isName key.toList = true)
    (hperm : keys.Perm (data.map Prod.fst)) :
    replaceInTurn escape data keys (tokens.flatMap Token.print) =
      fillIn escape data (tokens.flatMap Token.print) := by
  have hkeys : ∀ key ∈ keys, isName key.toList = true :=
    fun key hkey => hnames key (hperm.mem_iff.mp hkey)
  have hall : ∀ field ∈ data, field.1 ∈ keys := fun field hfield =>
    hperm.mem_iff.mpr (List.mem_map.mpr ⟨field, hfield, rfl⟩)
  have hnone : insertionOf escape data [] = fun _ => none := by
    funext name
    simp [insertionOf]
  have hturns := replaceInTurn_filled hputs hkeys []
  rw [List.nil_append, insertionOf_eq hall, hnone, funext Token.filled_none]
    at hturns
  rw [hturns, fillIn, substitute_print]

end InTurn

/-- **Any order.**  In a template of plain text, placeholders and tags of
blocks, in whatever order these stand, the first pass comes to this: take the
fields in any order, and replace each placeholder of a field that is there and
not null wherever it stands then.  The fields are to have names, and their
values no opening brace. -/
theorem fields_can_be_taken_in_any_order (escape : List Char → List Char)
    (data : Fields) (tokens : List Token)
    (hnames : ∀ key ∈ data.map Prod.fst, isName key.toList = true)
    (hputs : PutsNoBrace escape data (tokens.flatMap Token.slots)) :
    (∀ keys : List String, keys.Perm (data.map Prod.fst) →
      replaceInTurn escape data keys (tokens.flatMap Token.print) =
        fillIn escape data (tokens.flatMap Token.print)) ∧
    (∀ keys keys' : List String, keys.Perm (data.map Prod.fst) →
      keys'.Perm (data.map Prod.fst) →
      replaceInTurn escape data keys (tokens.flatMap Token.print) =
        replaceInTurn escape data keys' (tokens.flatMap Token.print)) := by
  refine ⟨fun keys hperm => replaceInTurn_eq_fillIn hputs hnames hperm, ?_⟩
  intro keys keys' hperm hperm'
  rw [replaceInTurn_eq_fillIn hputs hnames hperm,
    replaceInTurn_eq_fillIn hputs hnames hperm']

/-- Two fields and a null are taken from the last to the first, in a template
with a tag that is never closed. -/
theorem fields_of_an_invoice_from_the_last :
    let name : Name := ⟨"name".toList, by decide⟩
    let due : Name := ⟨"due".toList, by decide⟩
    let total : Name := ⟨"total".toList, by decide⟩
    let gap : Gap := ⟨[' '], by decide⟩
    let data : Fields :=
      [("name", .string "Ana\x7d"), ("due", .null), ("total", .int 7)]
    let tokens : List Token :=
      [.blockEnd, .piece (.slot total), .blockStart gap due,
        .piece (.slot name), .piece (.text ⟨['\x7d'], by decide⟩),
        .piece (.slot due)]
    let keys := ["total", "due", "name"]
    (∀ key ∈ data.map Prod.fst, isName key.toList = true) ∧
      PutsNoBrace id data (tokens.flatMap Token.slots) ∧
      keys.Perm (data.map Prod.fst) ∧
      replaceInTurn id data keys (tokens.flatMap Token.print) =
        fillIn id data (tokens.flatMap Token.print) ∧
      fillIn id data (tokens.flatMap Token.print) =
        "\x7b\x7b/if\x7d\x7d7\x7b\x7b#if due\x7d\x7dAna\x7d\x7d\x7b\x7bdue\x7d\x7d".toList := by
  intro name due total gap data tokens keys
  have hnames : ∀ key ∈ data.map Prod.fst, isName key.toList = true := by decide
  have hputs : PutsNoBrace id data (tokens.flatMap Token.slots) := by
    intro slot hslot v hv
    obtain rfl | rfl | rfl : slot = total ∨ slot = name ∨ slot = due := by
      simpa [tokens, Token.slots, Piece.slots] using hslot
    · obtain rfl : v = .int 7 := Option.some.inj hv.symm
      decide
    · obtain rfl : v = .string "Ana\x7d" := Option.some.inj hv.symm
      decide
    · cases hv
  have hperm : keys.Perm (data.map Prod.fst) := by decide
  refine ⟨hnames, hputs, hperm,
    (fields_can_be_taken_in_any_order id data tokens hnames hputs).1 keys hperm,
    ?_⟩
  rw [fillIn, substitute_print]
  rfl

/-- With an opening brace in a value the order matters: the value of the first
field is looked at again when the second one is taken after it, and not when
it is taken before it. -/
example :
    let data : Fields :=
      [("first", .string "\x7b\x7bsecond\x7d\x7d"), ("second", .int 1)]
    let t := placeholder "first".toList
    replaceInTurn id data ["first", "second"] t = ['1'] ∧
      replaceInTurn id data ["second", "first"] t =
        placeholder "second".toList := by
  constructor <;> cbv

end Notices.Markup
