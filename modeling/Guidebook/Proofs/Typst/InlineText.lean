import Guidebook.Proofs.Typst.FirstTexts

namespace Guidebook

/-!
# Guides whose text stays inline

The texts that stand first in the markup of a guide are those that come first in what
its blocks and their spans show, in the same order.  Each of them is read as a marker
just when it is a number with a full stop and a blank.
-/

open Typst

/-! ## Blocks -/

/-- What a block shows, part by part; the cells of a table do so up to the width of its header. -/
def Block.contents : Block → List (List Span)
  | .heading _ content => [content]
  | .paragraph content => [content]
  | .codeBlock _ _ => []
  | .list items => items.contents
  | .table _ headers rows => headers ++ rows.flatMap (·.take headers.length)
  | .blockquote _ paragraphs => paragraphs
  | .rule => []

/-- The texts that come first in what a block shows, or in a span anywhere inside it. -/
def Block.starts (block : Block) : List Text :=
  block.contents.flatMap Span.starts

/-- A row filled up or cut to a width keeps the parts of its first values; the filler has none. -/
theorem flatMap_range_getD
    {parts : α → List β}
    {filler : α}
    (nothing : parts filler = [])
    (width : Nat)
    (row : List α) :
    (List.range width).flatMap (fun column => parts (row.getD column filler)) =
      (row.take width).flatMap parts := by
  induction width with
  | zero =>
      rfl
  | succ width inductionHypothesis =>
      rw [List.range_succ, List.flatMap_append, inductionHypothesis, List.take_add_one,
        List.flatMap_append, List.flatMap_singleton, List.getD_eq_getElem?_getD]
      cases row[width]? with
      | none =>
          rw [Option.getD_none, nothing]
          rfl
      | some value =>
          exact congrArg _ (List.append_nil _).symm

namespace Strip

theorem startsAll_cons_frame
    (signs : Text)
    (rest : List Strip) :
    startsAll (frame signs :: rest) = startsAll rest :=
  rfl

theorem startsAll_concat_frame
    (strips : List Strip)
    (signs : Text) :
    startsAll (strips ++ [frame signs]) = startsAll strips := by
  rw [startsAll, List.flatMap_append]
  exact List.append_nil _

/-- Keeping strips on one page adds no text. -/
theorem startsAll_keepTogether
    (strips : List Strip) :
    startsAll (keepTogether strips) = startsAll strips := by
  rw [keepTogether, startsAll_cons_frame, startsAll_concat_frame]

/-- The texts that come first in a table are those that do so in its cells. -/
theorem startsAll_table
    (alignments : List Alignment)
    (headers : List Cell)
    (rows : List (List Cell)) :
    startsAll (table alignments headers rows) = (Block.table alignments headers rows).starts := by
  have body (row : List Cell) :
      startsAll (bodyRow headers.length row) =
        (row.take headers.length).flatMap Span.starts := by
    rw [startsAll, bodyRow, List.flatMap_map]
    exact flatMap_range_getD rfl headers.length row
  have header : startsAll (headers.map headerCell) = headers.flatMap Span.starts :=
    List.flatMap_map _ _ _
  have cells :
      startsAll (headers.map headerCell ++ rows.flatMap (bodyRow headers.length)) =
        (Block.table alignments headers rows).starts := by
    rw [Block.starts, Block.contents, List.flatMap_append, List.flatMap_assoc, startsAll,
      List.flatMap_append, List.flatMap_assoc, ← startsAll, header]
    exact congrArg _ (List.flatMap_congr fun row _ => body row)
  unfold table
  by_cases noHeaders : headers.isEmpty
  · have noCells : rows.flatMap (bodyRow 0) = [] :=
      List.flatMap_eq_nil_iff.mpr fun _ _ => rfl
    rw [if_pos noHeaders, ← cells, List.isEmpty_iff.mp noHeaders, List.length_nil, noCells]
    rfl
  · rw [if_neg noHeaders, startsAll_cons_frame, startsAll_concat_frame, cells]

/-- The texts that come first in the strips of a block are those that do so in the block. -/
theorem startsAll_ofBlock
    (theme : Theme)
    (block : Block) :
    startsAll (ofBlock theme block) = block.starts := by
  cases block with
  | heading | paragraph | codeBlock | rule =>
      rfl
  | list items =>
      have content (node : Node) : (ofNode node).content = node.item.content := by
        obtain ⟨level, ordered, leads, content, checked, nested⟩ := node
        rfl
      have rows : startsAll ((items.preorder 1).map ofNode) = (Block.list items).starts := by
        rw [Block.starts, Block.contents, ← items.map_content_preorder 1, List.flatMap_map,
          startsAll, List.flatMap_map]
        simp only [content]
      unfold ofBlock
      dsimp only
      split
      · rw [startsAll_keepTogether, rows]
      · rw [startsAll_concat_frame, rows]
  | table alignments headers rows =>
      exact (startsAll_keepTogether _).trans (startsAll_table alignments headers rows)
  | blockquote callout? paragraphs =>
      unfold ofBlock
      rw [startsAll_cons_frame, startsAll_concat_frame]
      exact List.flatMap_map _ _ _

theorem startsAll_ofBundle
    (theme : Theme)
    (bundle : Bundle) :
    startsAll (ofBundle theme bundle) = bundle.blocks.flatMap Block.starts := by
  have own :
      startsAll (bundle.blocks.flatMap (ofBlock theme)) = bundle.blocks.flatMap Block.starts := by
    rw [startsAll, List.flatMap_assoc]
    exact List.flatMap_congr fun block _ => startsAll_ofBlock theme block
  cases bundle with
  | single block notHeading =>
      exact own
  | kept heading isHeading next? =>
      exact (startsAll_keepTogether _).trans own

end Strip

/-- The texts that come first in a guide are those that do so in its blocks. -/
theorem Theme.startsAll_strips
    (theme : Theme)
    (blocks : List Block) :
    Strip.startsAll (theme.strips blocks) = blocks.flatMap Block.starts := by
  have bundles :
      Strip.startsAll ((Bundle.ofBlocks blocks).flatMap (Strip.ofBundle theme)) =
        (Bundle.ofBlocks blocks).flatMap fun bundle => bundle.blocks.flatMap Block.starts := by
    rw [Strip.startsAll, List.flatMap_assoc]
    exact List.flatMap_congr fun bundle _ => Strip.startsAll_ofBundle theme bundle
  rw [strips, Strip.startsAll_cons_frame, bundles, ← List.flatMap_assoc,
    Bundle.flatMap_blocks_ofBlocks]

/-! ## Soundness -/

namespace Strip

/-- The strips of a table with cells in normal form are sound. -/
theorem sound_table
    (alignments : List Alignment)
    {headers : List Cell}
    {rows : List (List Cell)}
    (normal : ∀ content ∈ (Block.table alignments headers rows).contents, Span.NormalAll content) :
    ∀ strip ∈ table alignments headers rows, strip.Sound := by
  rw [Block.contents, List.forall_mem_append] at normal
  obtain ⟨headersNormal, rowsNormal⟩ := normal
  have header : ∀ strip ∈ headers.map headerCell, strip.Sound := by
    rw [List.forall_mem_map]
    exact fun cell member => sound_headerCell (headersNormal cell member)
  have body : ∀ strip ∈ rows.flatMap (bodyRow headers.length), strip.Sound := by
    intro strip member
    obtain ⟨row, isRow, inRow⟩ := List.mem_flatMap.mp member
    obtain ⟨column, isColumn, rfl⟩ := List.mem_map.mp inRow
    apply sound_bodyCell
    rw [List.getD_eq_getElem?_getD, ← List.getElem?_take_of_lt (List.mem_range.mp isColumn)]
    cases found : (row.take headers.length)[column]? with
    | none =>
        trivial
    | some cell =>
        exact rowsNormal cell (List.mem_flatMap_of_mem isRow (List.mem_of_getElem? found))
  unfold table
  by_cases noHeaders : headers.isEmpty
  · rw [if_pos noHeaders]
    exact List.forall_mem_nil _
  · rw [if_neg noHeaders, List.forall_mem_cons, List.forall_mem_append, List.forall_mem_append,
      List.forall_mem_singleton]
    exact ⟨sound_tableStart _ _, ⟨header, body⟩, sound_frame rfl (by decide) rfl⟩

/-- The strips of a block with contents in normal form are sound. -/
theorem sound_ofBlock
    (theme : Theme)
    {block : Block}
    (normal : ∀ content ∈ block.contents, Span.NormalAll content) :
    ∀ strip ∈ ofBlock theme block, strip.Sound := by
  cases block with
  | heading level content =>
      exact List.forall_mem_singleton.mpr (sound_heading theme level (normal _ (.head _)))
  | paragraph content =>
      exact List.forall_mem_singleton.mpr (sound_paragraph (normal _ (.head _)))
  | codeBlock language lines =>
      exact List.forall_mem_singleton.mpr (sound_typesetCode theme.code language lines)
  | list items =>
      have rows : ∀ strip ∈ (items.preorder 1).map ofNode, strip.Sound := by
        rw [List.forall_mem_map]
        intro node member
        apply sound_ofNode
        apply normal
        rw [Block.contents, ← items.map_content_preorder 1]
        exact List.mem_map_of_mem member
      unfold ofBlock
      dsimp only
      split
      · exact sound_keepTogether rows
      · rw [List.forall_mem_append, List.forall_mem_singleton]
        exact ⟨rows, sound_frame rfl (by decide) rfl⟩
  | table alignments headers rows =>
      exact sound_keepTogether (sound_table alignments normal)
  | blockquote callout? paragraphs =>
      have inside : ∀ strip ∈ paragraphs.map paragraph, strip.Sound := by
        rw [List.forall_mem_map]
        exact fun content member => sound_paragraph (normal content member)
      unfold ofBlock
      rw [List.forall_mem_cons, List.forall_mem_append, List.forall_mem_singleton]
      exact ⟨sound_quoteStart theme callout?, inside, sound_frame rfl (by decide) rfl⟩
  | rule =>
      exact List.forall_mem_singleton.mpr (sound_frame rfl (by decide) rfl)

theorem sound_ofBundle
    (theme : Theme)
    {bundle : Bundle}
    (normal : ∀ block ∈ bundle.blocks, ∀ content ∈ block.contents, Span.NormalAll content) :
    ∀ strip ∈ ofBundle theme bundle, strip.Sound := by
  have own : ∀ strip ∈ bundle.blocks.flatMap (ofBlock theme), strip.Sound := by
    intro strip member
    obtain ⟨block, isBlock, isStrip⟩ := List.mem_flatMap.mp member
    exact sound_ofBlock theme (normal block isBlock) strip isStrip
  cases bundle with
  | single block notHeading =>
      exact own
  | kept heading isHeading next? =>
      exact sound_keepTogether own

end Strip

namespace Theme

/-- The strips of a guide are sound when all its contents are in normal form. -/
theorem sound_strips
    (theme : Theme)
    {blocks : List Block}
    (normal : ∀ block ∈ blocks, ∀ content ∈ block.contents, Span.NormalAll content) :
    ∀ strip ∈ theme.strips blocks, strip.Sound := by
  rw [strips, List.forall_mem_cons]
  refine ⟨Strip.sound_preamble theme, ?_⟩
  intro strip member
  obtain ⟨bundle, isBundle, isStrip⟩ := List.mem_flatMap.mp member
  refine Strip.sound_ofBundle theme (fun block isBlock => normal block ?_) strip isStrip
  rw [← Bundle.flatMap_blocks_ofBlocks blocks]
  exact List.mem_flatMap_of_mem isBundle isBlock

/--
No text of a span is taken for a marker by standing first, on a line of the markup, in
content between brackets or behind a marker.
-/
def KeepsTextInline (theme : Theme) (blocks : List Block) : Prop :=
  ∀ before text behind,
    theme.passages blocks = before ++ .source text :: behind →
    standsFirst (Passage.writeAll before) →
    ¬ opensBlock (escape text ++ Passage.writeAll behind)

section Normal

variable
    (theme : Theme)
    {blocks : List Block}
    (normal : ∀ block ∈ blocks, ∀ content ∈ block.contents, Span.NormalAll content)

include normal

/-- A text is a marker by itself, whatever stands behind it. -/
theorem opensBlock_eq_isNumbered
    {before behind : List Passage}
    {text : Text}
    (shape : theme.passages blocks = before ++ .source text :: behind) :
    opensBlock (escape text ++ Passage.writeAll behind) = isNumbered text := by
  have apart := Strip.apart_flatMap_passages (theme.sound_strips normal) []
  rw [← passages, shape] at apart
  obtain ⟨nonempty, stops⟩ := apart.of_source
  rw [List.append_nil] at stops
  exact opensBlock_escape_append nonempty stops

/-- The texts that stand first are those that come first in what the blocks show. -/
theorem firsts_passages :
    Passage.firsts [] (theme.passages blocks) = blocks.flatMap Block.starts := by
  rw [passages, Strip.firsts_flatMap_passages (theme.sound_strips normal) atLineStart_nil,
    startsAll_strips]

/-- A guide keeps its text inline when no text that comes first in it is numbered. -/
theorem keepsTextInline_iff_starts :
    theme.KeepsTextInline blocks ↔ ∀ text ∈ blocks.flatMap Block.starts, ¬ isNumbered text := by
  rw [← theme.firsts_passages normal]
  constructor
  · intro keeps text isFirst
    obtain ⟨before, behind, shape, stands⟩ := Passage.mem_firsts_iff.mp isFirst
    rw [← theme.opensBlock_eq_isNumbered normal shape]
    exact keeps before text behind shape stands
  · intro notNumbered before text behind shape stands
    rw [theme.opensBlock_eq_isNumbered normal shape]
    exact notNumbered text (Passage.mem_firsts_iff.mpr ⟨before, behind, shape, stands⟩)

end Normal

end Theme

/-- The contents of a well-formed block are in normal form. -/
theorem Block.WellFormed.normalAll_contents
    {block : Block}
    (formed : block.WellFormed) :
    ∀ content ∈ block.contents, Span.NormalAll content := by
  cases block with
  | heading level content =>
      exact List.forall_mem_singleton.mpr formed.2.2
  | paragraph content =>
      exact List.forall_mem_singleton.mpr formed
  | codeBlock | rule =>
      exact List.forall_mem_nil _
  | list items =>
      exact formed.1.normalAll_contents
  | table alignments headers rows =>
      obtain ⟨-, -, headersNormal, rowsNormal⟩ := formed
      rw [contents, List.forall_mem_append]
      refine ⟨headersNormal, fun cell member => ?_⟩
      obtain ⟨row, isRow, isTaken⟩ := List.mem_flatMap.mp member
      exact (rowsNormal row isRow).2 cell (List.mem_of_mem_take isTaken)
  | blockquote callout? paragraphs =>
      exact formed

/-- What the blocks of a guide show is in normal form. -/
theorem Block.normalAll_contents_of_mem_read
    {text : Text}
    {block : Block}
    (member : block ∈ read text) :
    ∀ content ∈ block.contents, Span.NormalAll content := by
  obtain ⟨line, rest, begins, areLines⟩ := exists_take_of_mem_read member
  have noFeed : ∀ other ∈ line :: rest, '\n' ∉ other :=
    fun other isLine => Text.newline_not_mem_of_mem_lines (areLines other isLine)
  exact (wellFormed_take noFeed begins).normalAll_contents

namespace Theme

/--
The passages of a guide are its markup, and a text of a span in it is a marker just when
it is a number with a full stop and a blank; the other markers are escaped.  So all text
stays inline just when no such number comes first in what a block shows or in a span
anywhere inside it.
-/
theorem keepsTextInline_read_iff
    (theme : Theme)
    (text : Text) :
    let blocks := Block.read text
    Passage.writeAll (theme.passages blocks) = theme.typeset blocks ∧
      (∀ before content behind,
        theme.passages blocks = before ++ .source content :: behind →
        opensBlock (escape content ++ Passage.writeAll behind) = isNumbered content) ∧
      (theme.KeepsTextInline blocks ↔
        ∀ content ∈ blocks.flatMap Block.starts, ¬ isNumbered content) := by
  intro blocks
  have normal : ∀ block ∈ blocks, ∀ content ∈ block.contents, Span.NormalAll content :=
    fun _ => Block.normalAll_contents_of_mem_read
  exact ⟨theme.writeAll_passages blocks,
    fun before content behind shape => theme.opensBlock_eq_isNumbered normal shape,
    theme.keepsTextInline_iff_starts normal⟩

/-- A quote whose text starts with a number is read as a numbered list. -/
theorem not_keepsTextInline_read_numbered_quote :
    ¬ ∀ (theme : Theme) (text : Text), theme.KeepsTextInline (Block.read text) := by
  intro keeps
  have isRead :
      Block.read ['>', ' ', '1', '.', ' ', 'x'] = [.blockquote none [[.text "1. x"]]] := by
    cbv
  have inline := keeps {} ['>', ' ', '1', '.', ' ', 'x']
  rw [keepsTextInline_iff_starts _ fun _ => Block.normalAll_contents_of_mem_read, isRead] at inline
  have isNumber : isNumbered ['1', '.', ' ', 'x'] := by
    decide
  exact inline ['1', '.', ' ', 'x'] (.head _) isNumber

end Theme

end Guidebook
