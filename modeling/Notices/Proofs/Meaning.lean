import Notices.Markup.Render
import Notices.Proofs.Scan

/-!
# What a template means

A template that is written with care is the text of a tree: plain text,
placeholders, and blocks over these.  Such a tree can be evaluated directly,
without any scanning, and the two passes come to the same.

* `Template.print` writes a tree and `Template.eval` evaluates it.
* `fillIn_print` says what the first pass leaves of a tree, and
  `decideBlocks_filled` what the second pass makes of that.
* `render_print` says that rendering the text of a tree is evaluating the tree.
-/

namespace Notices.Markup

open Text

/-! ## Trees -/

/-- A text without an opening brace. -/
structure Plain where
  chars : List Char
  plain : '{' ∉ chars

/-- A name of a field. -/
structure Name where
  chars : List Char
  isName : isName chars = true

/-- The blanks between the opening of a tag and its name. -/
structure Gap where
  chars : List Char
  isBlanks : isBlanks chars = true

/-- A part of a template that has no parts itself. -/
inductive Piece where
  | text (plain : Plain)
  | slot (name : Name)

/-- A part of a template: a piece, or a block over pieces. -/
inductive Node where
  | piece (p : Piece)
  | block (gap : Gap) (name : Name) (body : List Piece)

namespace Piece

/-- The text of a piece. -/
def print : Piece → List Char
  | .text plain => plain.chars
  | .slot name => placeholder name.chars

/-- What a piece means: a placeholder stands for the escaped spelling of a field
that is there and not null, and for itself if there is none. -/
def eval (escape : List Char → List Char) (data : Fields) : Piece → List Char
  | .text plain => plain.chars
  | .slot name =>
    match data.present? (String.ofList name.chars) with
    | some v => escape v.spell
    | none => placeholder name.chars

/-- The names of the placeholders of a piece. -/
def slots : Piece → List Name
  | .text _ => []
  | .slot name => [name]

end Piece

namespace Node

/-- The text of a node. -/
def print : Node → List Char
  | .piece p => p.print
  | .block gap name body =>
      blockTag gap.chars name.chars ++ body.flatMap Piece.print ++ blockClosing

/-- What a node means: a block stands for its body if its field counts as given,
and else for nothing. -/
def eval (escape : List Char → List Char) (data : Fields) : Node → List Char
  | .piece p => p.eval escape data
  | .block _ name body =>
    if (data.get? (String.ofList name.chars)).any Value.isTruthy then
      body.flatMap (Piece.eval escape data)
    else []

/-- The names of the placeholders of a node. -/
def slots : Node → List Name
  | .piece p => p.slots
  | .block _ _ body => body.flatMap Piece.slots

end Node

/-! ## Scanning a list of parts -/

/-- A scan that goes through each part of a text goes through the whole text. -/
theorem scan_flatMap {α : Type} {f : List Char → List Char}
    {read written : α → List Char} {parts : List α}
    (hpart : ∀ part ∈ parts, ∀ t, f (read part ++ t) = written part ++ f t)
    (t : List Char) :
    f (parts.flatMap read ++ t) = parts.flatMap written ++ f t := by
  induction parts with
  | nil => rfl
  | cons part parts ih =>
      have hrest := ih fun p hp => hpart p (List.mem_cons_of_mem part hp)
      rw [List.flatMap_cons, List.append_assoc,
        hpart part (List.mem_cons_self ..), hrest, List.flatMap_cons,
        List.append_assoc]

/-- A scan that keeps the empty text and goes through each part of a text
ends with the last part. -/
theorem scan_flatMap_end {α : Type} {f : List Char → List Char}
    {read written : α → List Char} {parts : List α} (hnil : f [] = [])
    (hpart : ∀ part ∈ parts, ∀ t, f (read part ++ t) = written part ++ f t) :
    f (parts.flatMap read) = parts.flatMap written := by
  have hscan := scan_flatMap hpart []
  rw [hnil, List.append_nil] at hscan
  simpa using hscan

section Passes

variable {escape : List Char → List Char} {data : Fields}

/-- The data puts no opening brace in the place of a placeholder. -/
def PutsNoBrace (escape : List Char → List Char) (data : Fields)
    (names : List Name) : Prop :=
  ∀ name ∈ names, ∀ v, data.present? (String.ofList name.chars) = some v →
    '{' ∉ escape v.spell

/-! ## The first pass -/

/-- The first pass evaluates a piece. -/
theorem fillIn_piece (p : Piece) (t : List Char) :
    fillIn escape data (p.print ++ t) = p.eval escape data ++
      fillIn escape data t := by
  unfold fillIn
  cases p with
  | text plain => exact substitute_plain plain.plain t
  | slot name =>
      cases hthere : data.present? (String.ofList name.chars) with
      | some v =>
          have hfill : insertion escape data name.chars =
              some (escape v.spell) := by
            simp [insertion, hthere]
          simp only [Piece.print, Piece.eval, hthere]
          exact substitute_placeholder name.isName hfill t
      | none =>
          have hfill : insertion escape data name.chars = none := by
            simp [insertion, hthere]
          simp only [Piece.print, Piece.eval, hthere]
          exact substitute_unfilled name.isName hfill t

/-- What the first pass leaves of a node: the tags of a block are still
there. -/
def Node.filled (escape : List Char → List Char) (data : Fields) :
    Node → List Char
  | .piece p => p.eval escape data
  | .block gap name body =>
    blockTag gap.chars name.chars ++ body.flatMap (Piece.eval escape data) ++
      blockClosing

/-- The first pass keeps the tag that opens a block. -/
theorem fillIn_blockTag (gap : Gap) (name : Name) (t : List Char) :
    fillIn escape data (blockTag gap.chars name.chars ++ t) =
      blockTag gap.chars name.chars ++ fillIn escape data t :=
  substitute_blockTag gap.isBlanks name.isName t

/-- The first pass keeps the tag that closes a block. -/
theorem fillIn_blockClosing (t : List Char) :
    fillIn escape data (blockClosing ++ t) = blockClosing ++
      fillIn escape data t :=
  substitute_blockClosing t

/-- The first pass evaluates the pieces of a node and leaves the tags of a
block. -/
theorem fillIn_node (node : Node) (t : List Char) :
    fillIn escape data (node.print ++ t) = node.filled escape data ++
      fillIn escape data t := by
  cases node with
  | piece p => exact fillIn_piece p t
  | block gap name body =>
      have hbody :
          fillIn escape data (body.flatMap Piece.print ++ (blockClosing ++ t)) =
          body.flatMap (Piece.eval escape data) ++
            fillIn escape data (blockClosing ++ t) :=
        scan_flatMap (fun p _ t => fillIn_piece p t) (blockClosing ++ t)
      simp only [Node.print, Node.filled, List.append_assoc]
      rw [fillIn_blockTag, hbody, fillIn_blockClosing]

/-- The first pass over the text of a tree. -/
theorem fillIn_print (tree : List Node) :
    fillIn escape data (tree.flatMap Node.print) =
      tree.flatMap (Node.filled escape data) := by
  have hend : fillIn escape data [] = [] := by
    unfold fillIn
    rw [substitute_eq]
    rfl
  exact scan_flatMap_end hend fun node _ t => fillIn_node node t

/-! ## The second pass -/

/-- What a piece stands for has no opening brace, or it is a placeholder. -/
theorem Piece.plain_or_placeholder {p : Piece}
    (hputs : PutsNoBrace escape data p.slots) :
    '{' ∉ p.eval escape data ∨
    ∃ name : Name, p.eval escape data = placeholder name.chars := by
  cases p with
  | text plain => exact Or.inl plain.plain
  | slot name =>
      cases hthere : data.present? (String.ofList name.chars) with
      | some v =>
          left
          simp only [Piece.eval, hthere]
          exact hputs name (List.mem_singleton_self name) v hthere
      | none =>
          right
          exact ⟨name, by simp only [Piece.eval, hthere]⟩

/-- The second pass keeps what a piece stands for. -/
theorem decideBlocks_piece {p : Piece} (hputs : PutsNoBrace escape data p.slots)
    (t : List Char) :
    decideBlocks data (p.eval escape data ++ t) = p.eval escape data ++
      decideBlocks data t := by
  unfold decideBlocks
  rcases Piece.plain_or_placeholder hputs with hplain | ⟨name, hname⟩
  · exact conditionals_plain hplain t
  · rw [hname]
    exact conditionals_placeholder name.isName t

/-- No closer begins in what a piece stands for. -/
theorem cut_blockClosing_piece {p : Piece}
    (hputs : PutsNoBrace escape data p.slots) (t : List Char) :
    cut blockClosing (p.eval escape data ++ t) =
      (cut blockClosing t).map fun parts =>
        (p.eval escape data ++ parts.1, parts.2) := by
  rcases Piece.plain_or_placeholder hputs with hplain | ⟨name, hname⟩
  · exact cut_blockClosing_plain hplain t
  · rw [hname]
    exact cut_blockClosing_placeholder name.isName t

/-- The first closer behind the body of a block is that of the block. -/
theorem cut_blockClosing_body {body : List Piece}
    (hputs : PutsNoBrace escape data (body.flatMap Piece.slots))
    (t : List Char) :
    cut blockClosing
      (body.flatMap (Piece.eval escape data) ++ (blockClosing ++ t)) =
      some (body.flatMap (Piece.eval escape data), t) := by
  induction body with
  | nil => exact cut_self_append blockClosing t
  | cons p body ih =>
      have hfirst : PutsNoBrace escape data p.slots := fun name hname =>
        hputs name (List.mem_append_left _ hname)
      have hrest : PutsNoBrace escape data (body.flatMap Piece.slots) :=
        fun name hname =>
        hputs name (List.mem_append_right _ hname)
      rw [List.flatMap_cons, List.append_assoc, cut_blockClosing_piece hfirst,
        ih hrest]
      rfl

/-- The second pass evaluates a node of which the first pass left the tags. -/
theorem decideBlocks_node {node : Node}
    (hputs : PutsNoBrace escape data node.slots) (t : List Char) :
    decideBlocks data (node.filled escape data ++ t) =
      node.eval escape data ++ decideBlocks data t := by
  cases node with
  | piece p => exact decideBlocks_piece hputs t
  | block gap name body =>
      have hclose := cut_blockClosing_body hputs t
      simp only [decideBlocks, Node.filled, List.append_assoc]
      exact conditionals_block gap.isBlanks name.isName hclose

/-- The second pass over what the first pass leaves of a tree. -/
theorem decideBlocks_filled {tree : List Node}
    (hputs : PutsNoBrace escape data (tree.flatMap Node.slots)) :
    decideBlocks data (tree.flatMap (Node.filled escape data)) =
      tree.flatMap (Node.eval escape data) := by
  have hend : decideBlocks data [] = [] := by
    unfold decideBlocks
    rw [conditionals_eq]
    rfl
  have hnode : ∀ node ∈ tree, PutsNoBrace escape data node.slots :=
    fun node hnode name hname =>
    hputs name (List.mem_flatMap.mpr ⟨node, hnode, hname⟩)
  exact scan_flatMap_end hend fun node hmem t =>
    decideBlocks_node (hnode node hmem) t

end Passes

/-- **The meaning of a template.**  Rendering the text of a tree is
evaluating the tree, if what is put in the place of its placeholders
has no opening brace. -/
theorem render_print (escape : List Char → List Char) (data : Fields)
    (tree : List Node)
    (hputs : PutsNoBrace escape data (tree.flatMap Node.slots)) :
    render escape data (tree.flatMap Node.print) =
      tree.flatMap (Node.eval escape data) := by
  unfold render
  rw [fillIn_print, decideBlocks_filled hputs]

/-- A block is kept that has a placeholder without a value, a value with a
brace, and a brace right behind a tag. -/
theorem render_block_with_braces :
    let amount : Name := ⟨"amount".toList, by decide⟩
    let due : Name := ⟨"due".toList, by decide⟩
    let gap : Gap := ⟨[' ', '\t'], by decide⟩
    let brace : Plain := ⟨['}'], by decide⟩
    let data : Fields := [("amount", .string "5\x7d")]
    let tree : List Node :=
      [.block gap amount [.slot amount, .text brace, .slot due],
        .piece (.text brace)]
    PutsNoBrace id data (tree.flatMap Node.slots) ∧
      render id data
        ("\x7b\x7b#if \tamount\x7d\x7d\x7b\x7bamount\x7d\x7d\x7d".toList ++
          "\x7b\x7bdue\x7d\x7d\x7b\x7b/if\x7d\x7d\x7d".toList) =
        "5\x7d\x7d\x7b\x7bdue\x7d\x7d\x7d".toList := by
  intro amount due gap brace data tree
  have hputs : PutsNoBrace id data (tree.flatMap Node.slots) := by
    intro name hname v hv
    obtain rfl | rfl : name = amount ∨ name = due := by
      simpa [tree, Node.slots, Piece.slots] using hname
    · obtain rfl : v = .string "5\x7d" := Option.some.inj hv.symm
      decide
    · cases hv
  exact ⟨hputs, render_print id data tree hputs⟩

end Notices.Markup
