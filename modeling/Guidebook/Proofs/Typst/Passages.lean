import Guidebook.Proofs.Typst.Bundles
import Guidebook.Proofs.Typst.Decoding
import Guidebook.Proofs.Typst.ItemLines

namespace Guidebook

/-!
# Where texts stand in markup

The markup of a guide is divided into passages, so that the texts of its spans are told
from the signs that are set around them.  It is divided in two steps: a guide is a row
of strips, each with the spans of one heading, paragraph, item or cell, and the passages
of a strip are its lead, those of its spans, and its tail.
-/

namespace Typst

/-- A part of markup: signs that stand there as they are, or the text of a span. -/
inductive Passage where
  | signs (markup : Text)
  | source (text : Text)
  deriving Repr, DecidableEq

namespace Passage

/-- A passage as markup. -/
def write : Passage → Text
  | .signs markup => markup
  | .source text => escape text

/-- Passages as markup, one after the other. -/
def writeAll (passages : List Passage) : Text :=
  passages.flatMap write

/-- The passages of a call around those of its content. -/
def call (wrapper : Wrapper) (content : List Passage) : List Passage :=
  .signs wrapper.start :: (content ++ [.signs [']', ';']])

@[simp]
theorem writeAll_nil :
    writeAll [] = [] :=
  rfl

@[simp]
theorem writeAll_cons
    (passage : Passage)
    (rest : List Passage) :
    writeAll (passage :: rest) = passage.write ++ writeAll rest :=
  List.flatMap_cons

@[simp]
theorem writeAll_append
    (first second : List Passage) :
    writeAll (first ++ second) = writeAll first ++ writeAll second :=
  List.flatMap_append

/-- A call is written as its start, its content, and the signs that end it. -/
theorem writeAll_call
    (wrapper : Wrapper)
    (content : List Passage) :
    writeAll (call wrapper content) = wrapper.start ++ (writeAll content ++ [']', ';']) := by
  simp [call, write]

end Passage

end Typst

open Typst

mutual

/-- The passages of a span.  An image is set by signs alone, as there is no span inside it. -/
def Span.passages : Span → List Passage
  | .text content => [.source content.toList]
  | .bold content => Passage.call .strong (Span.passagesAll content)
  | .italic content => Passage.call .emph (Span.passagesAll content)
  | .strikethrough content => Passage.call .strike (Span.passagesAll content)
  | .code content => [.signs (Typst.raw content.toList)]
  | .link url content =>
      if content.isEmpty then [.signs (Typst.link url.toList none)]
      else Passage.call (.link url.toList) (Span.passagesAll content)
  | .image alt url => [.signs (Span.image alt url).typeset]

/-- The passages of spans, one span after the other. -/
def Span.passagesAll : List Span → List Passage
  | [] => []
  | span :: rest => span.passages ++ Span.passagesAll rest

end

mutual

/-- The passages of a span are written as its markup. -/
theorem Span.writeAll_passages
    (span : Span) :
    Passage.writeAll span.passages = span.typeset := by
  cases span with
  | text content | code content | image alt url =>
      rw [passages, typeset]
      exact List.append_nil _
  | bold content =>
      rw [passages, typeset, Passage.writeAll_call, writeAll_passagesAll, ← wrap_append rfl,
        List.append_nil]
      rfl
  | italic content =>
      rw [passages, typeset, Passage.writeAll_call, writeAll_passagesAll, ← wrap_append rfl,
        List.append_nil]
      rfl
  | strikethrough content =>
      rw [passages, typeset, Passage.writeAll_call, writeAll_passagesAll, ← wrap_append rfl,
        List.append_nil]
      rfl
  | link url content =>
      rw [passages, typeset]
      split
      · exact List.append_nil _
      · rw [Passage.writeAll_call, writeAll_passagesAll, ← link_append, List.append_nil]

theorem Span.writeAll_passagesAll
    (spans : List Span) :
    Passage.writeAll (passagesAll spans) = typesetAll spans := by
  cases spans with
  | nil =>
      rfl
  | cons span rest =>
      rw [passagesAll, typesetAll, Passage.writeAll_append, writeAll_passages,
        writeAll_passagesAll]

end

/-! ## Strips -/

/-- Spans that are set behind a lead and in front of a tail. -/
structure Strip where
  lead : Text
  content : List Span
  tail : Text
  deriving Repr

namespace Strip

/-- A strip that shows no spans. -/
def frame (signs : Text) : Strip :=
  ⟨[], [], signs⟩

/-- A strip as markup. -/
def typeset (strip : Strip) : Text :=
  strip.lead ++ Span.typesetAll strip.content ++ strip.tail

/-- The passages of a strip. -/
def passages (strip : Strip) : List Passage :=
  .signs strip.lead :: (Span.passagesAll strip.content ++ [.signs strip.tail])

/-- Strips that stay on one page. -/
def keepTogether (strips : List Strip) : List Strip :=
  frame "#block(breakable: false)[\n".toList :: (strips ++ [frame "]\n\n".toList])

/-- A paragraph of text. -/
def paragraph (content : List Span) : Strip :=
  ⟨[], content, "\n\n".toList⟩

/-- An item that stands on a level; the outermost list is on the first. -/
def ofNode (node : Node) : Strip :=
  match node.item with
  | .mk content checked _ =>
      ⟨ListRow.line ⟨node.level - 1, node.ordered, taskBox checked⟩, content, ['\n']⟩

/-- A header cell. -/
def headerCell (cell : Cell) : Strip :=
  ⟨"  [#strong[".toList, cell, "]],\n".toList⟩

/-- A cell of a row. -/
def bodyCell (cell : Cell) : Strip :=
  ⟨"  [".toList, cell, "],\n".toList⟩

/-- The cells of a row in a table of so many columns. -/
def bodyRow (columns : Nat) (row : List Cell) : List Strip :=
  (List.range columns).map fun column => bodyCell (row.getD column [])

/-- What stands in front of the cells of a table. -/
def tableStart (columns : Nat) (alignments : List Alignment) : Text :=
  "#table(\n  columns: ".toList ++ Text.decimal columns ++ ",\n".toList ++
    columnAlignments columns alignments

/-- A table; without headers there is nothing to show. -/
def table (alignments : List Alignment) (headers : List Cell) (rows : List (List Cell)) :
    List Strip :=
  if headers.isEmpty then []
  else
    frame (tableStart headers.length alignments) ::
      (headers.map headerCell ++ rows.flatMap (bodyRow headers.length) ++ [frame ")\n".toList])

/-- What stands in front of the paragraphs of an admonition. -/
def admonitionStart (theme : Theme) (callout : Callout) : Text :=
  let color := rgb (theme.callouts.colorFor callout)
  "#block(breakable: false, width: 100%, inset: 8pt, fill: ".toList ++ color ++
    ".lighten(85%), stroke: (left: 3pt + ".toList ++ color ++ "))[\n#text(fill: ".toList ++
    color ++ ", weight: \"bold\")[".toList ++ callout.title.toList ++ "]\n\n".toList

/-- What stands in front of the paragraphs of a quote. -/
def quoteStart (theme : Theme) : Option Callout → Text
  | none => "#quote(block: true)[\n".toList
  | some callout => admonitionStart theme callout

/-- What stands in front of the text of a heading. -/
def headingLead (theme : Theme) (level : Nat) : Line :=
  List.replicate (max 1 (min maxHeadingDepth (level + theme.headings.offset))) '=' ++ [' ']

/-- The strips of a block. -/
def ofBlock (theme : Theme) : Block → List Strip
  | .heading level content => [⟨headingLead theme level, content, "\n\n".toList⟩]
  | .paragraph content => [paragraph content]
  | .codeBlock language lines => [frame (theme.code.typesetCode language lines)]
  | .list items =>
      let rows := (items.preorder 1).map ofNode
      if items.count ≤ maxItemsTogether then keepTogether rows else rows ++ [frame ['\n']]
  | .table alignments headers rows => keepTogether (table alignments headers rows)
  | .blockquote callout? paragraphs =>
      frame (quoteStart theme callout?) :: (paragraphs.map paragraph ++ [frame "]\n\n".toList])
  | .rule => [frame "#line(length: 100%)\n\n".toList]

/-- The strips of a bundle of blocks. -/
def ofBundle (theme : Theme) (bundle : Bundle) : List Strip :=
  let own := bundle.blocks.flatMap (ofBlock theme)
  match bundle with
  | .single _ _ => own
  | .kept _ _ _ => keepTogether own

/-- The passages of a strip are written as its markup. -/
theorem writeAll_passages
    (strip : Strip) :
    Passage.writeAll strip.passages = strip.typeset := by
  simp [passages, typeset, Passage.write, Span.writeAll_passagesAll]

theorem typeset_frame
    (signs : Text) :
    (frame signs).typeset = signs :=
  rfl

/-- Strips that are kept on one page are set in a call that keeps them there. -/
theorem flatMap_typeset_keepTogether
    (strips : List Strip) :
    (keepTogether strips).flatMap typeset = Typst.keepTogether (strips.flatMap typeset) := by
  unfold keepTogether Typst.keepTogether
  rw [List.flatMap_cons, List.flatMap_append, List.flatMap_singleton, typeset_frame,
    typeset_frame, List.append_assoc]

/-- The strip of a node is its line. -/
theorem typeset_ofNode
    (node : Node) :
    (ofNode node).typeset = node.row.line ++ ['\n'] := by
  obtain ⟨level, ordered, leads, content, checked, nested⟩ := node
  cases ordered with
  | true | false =>
      simp [ofNode, typeset, Node.row, Item.shown, ListRow.line]

/-- The strips of a table are set as the table. -/
theorem flatMap_typeset_table
    (alignments : List Alignment)
    (headers : List Cell)
    (rows : List (List Cell)) :
    (table alignments headers rows).flatMap typeset = Typst.table alignments headers rows := by
  unfold table Typst.table
  by_cases noHeaders : headers.isEmpty
  · rw [if_pos noHeaders, if_pos noHeaders, List.flatMap_nil]
  · have body (row : List Cell) :
        (bodyRow headers.length row).flatMap typeset = Typst.bodyRow headers.length row :=
      List.flatMap_map _ _ _
    have header : (headers.map headerCell).flatMap typeset = headers.flatMap Typst.headerCell :=
      List.flatMap_map _ _ _
    rw [if_neg noHeaders, if_neg noHeaders, List.flatMap_cons, List.flatMap_append,
      List.flatMap_append, header, List.flatMap_assoc, funext body, List.flatMap_singleton,
      typeset_frame, typeset_frame]
    unfold tableStart
    simp only [List.append_assoc]

/-- The strips of paragraphs are set as the paragraphs. -/
theorem flatMap_typeset_paragraphs
    (paragraphs : List (List Span)) :
    (paragraphs.map paragraph).flatMap typeset = paragraphs.flatMap Typst.paragraph :=
  List.flatMap_map _ _ _

/-- A heading is set as its lead, its content, and an empty line. -/
theorem typeset_heading
    (theme : Theme)
    (level : Nat)
    (content : List Span) :
    typeset ⟨headingLead theme level, content, "\n\n".toList⟩ =
      Typst.heading theme level content := by
  simp [typeset, headingLead, Typst.heading]

/-- A block is typeset strip by strip. -/
theorem flatMap_typeset_ofBlock
    (theme : Theme)
    (block : Block) :
    (ofBlock theme block).flatMap typeset = block.typeset theme := by
  cases block with
  | heading level content =>
      exact (List.append_nil _).trans (typeset_heading theme level content)
  | paragraph content =>
      exact List.append_nil _
  | codeBlock language lines =>
      exact List.append_nil _
  | list items =>
      have rows : ((items.preorder 1).map ofNode).flatMap typeset = items.typeset 0 := by
        rw [List.flatMap_map, funext typeset_ofNode, items.typeset_eq_flatMap]
      unfold ofBlock Block.typeset
      dsimp only
      split
      · rw [flatMap_typeset_keepTogether, rows]
      · rw [List.flatMap_append, rows, List.flatMap_singleton, typeset_frame]
  | table alignments headers rows =>
      exact (flatMap_typeset_keepTogether _).trans
        (congrArg Typst.keepTogether (flatMap_typeset_table alignments headers rows))
  | blockquote callout? paragraphs =>
      unfold ofBlock
      rw [List.flatMap_cons, List.flatMap_append, flatMap_typeset_paragraphs,
        List.flatMap_singleton, typeset_frame, typeset_frame, ← List.append_assoc]
      cases callout? with
      | none | some callout =>
          rfl
  | rule =>
      exact List.append_nil _

/-- The strips of a bundle are set as the bundle. -/
theorem flatMap_typeset_ofBundle
    (theme : Theme)
    (bundle : Bundle) :
    (ofBundle theme bundle).flatMap typeset = bundle.typeset theme := by
  have own :
      (bundle.blocks.flatMap (ofBlock theme)).flatMap typeset =
        bundle.blocks.flatMap (Block.typeset theme) := by
    rw [List.flatMap_assoc, funext (flatMap_typeset_ofBlock theme)]
  cases bundle with
  | single block notHeading =>
      exact own
  | kept heading isHeading next? =>
      exact (flatMap_typeset_keepTogether _).trans (congrArg Typst.keepTogether own)

end Strip

namespace Theme

/-- The strips of a guide. -/
def strips (theme : Theme) (blocks : List Block) : List Strip :=
  .frame theme.preamble :: (Bundle.ofBlocks blocks).flatMap (Strip.ofBundle theme)

/-- The passages of a guide. -/
def passages (theme : Theme) (blocks : List Block) : List Passage :=
  (theme.strips blocks).flatMap Strip.passages

/-- The passages of a guide are its markup. -/
theorem writeAll_passages
    (theme : Theme)
    (blocks : List Block) :
    Passage.writeAll (theme.passages blocks) = theme.typeset blocks := by
  have strips : (theme.strips blocks).flatMap Strip.typeset = theme.typeset blocks := by
    rw [Theme.strips, List.flatMap_cons, List.flatMap_assoc,
      funext (Strip.flatMap_typeset_ofBundle theme), Bundle.flatMap_typeset_ofBlocks,
      Strip.typeset_frame, typeset]
  rw [passages, Passage.writeAll, List.flatMap_assoc, ← strips]
  exact List.flatMap_congr fun strip _ => strip.writeAll_passages

end Theme

end Guidebook
