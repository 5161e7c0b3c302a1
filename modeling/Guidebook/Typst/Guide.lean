import Guidebook.Typst.ItemList
import Guidebook.Typst.Listing
import Guidebook.Typst.Table

namespace Guidebook

/-!
# Typeset guides

The blocks of a guide are set one after the other, below a preamble that sets
up pages and links.  A heading is kept on one page with the block after it.
-/

namespace Typst

/-- The deepest heading. -/
def maxHeadingDepth : Nat := 6

/-- Content that stays on one page. -/
def keepTogether (content : Text) : Text :=
  "#block(breakable: false)[\n".toList ++ content ++ "]\n\n".toList

/-- A heading, moved down by the levels that the theme asks for. -/
def heading (theme : Theme) (level : Nat) (content : List Span) : Text :=
  let depth := max 1 (min maxHeadingDepth (level + theme.headings.offset))
  List.replicate depth '=' ++ ' ' :: Span.typesetAll content ++ "\n\n".toList

/-- A paragraph of text. -/
def paragraph (content : List Span) : Text :=
  Span.typesetAll content ++ "\n\n".toList

/-- A quote without a title. -/
def quotation (paragraphs : List (List Span)) : Text :=
  "#quote(block: true)[\n".toList ++ paragraphs.flatMap paragraph ++ "]\n\n".toList

/-- An admonition: a box in its colour, with its title in front. -/
def admonition (theme : Theme) (callout : Callout) (paragraphs : List (List Span)) : Text :=
  let color := rgb (theme.callouts.colorFor callout)
  "#block(breakable: false, width: 100%, inset: 8pt, fill: ".toList ++ color ++
    ".lighten(85%), stroke: (left: 3pt + ".toList ++ color ++ "))[\n#text(fill: ".toList ++
    color ++ ", weight: \"bold\")[".toList ++ callout.title.toList ++ "]\n\n".toList ++
    paragraphs.flatMap paragraph ++ "]\n\n".toList

/-- The most items that a list may have to be kept on one page. -/
def maxItemsTogether : Nat := 5

end Typst

namespace Block

/-- A block on its own. -/
def typeset (theme : Theme) : Block → Text
  | .heading level content => Typst.heading theme level content
  | .paragraph content => Typst.paragraph content
  | .codeBlock language lines => theme.code.typesetCode language lines
  | .list items =>
      if items.count ≤ Typst.maxItemsTogether then Typst.keepTogether (items.typeset 0)
      else items.typeset 0 ++ ['\n']
  | .table alignments headers rows =>
      Typst.keepTogether (Typst.table alignments headers rows)
  | .blockquote none paragraphs => Typst.quotation paragraphs
  | .blockquote (some callout) paragraphs => Typst.admonition theme callout paragraphs
  | .rule => "#line(length: 100%)\n\n".toList

/-- Blocks in order; each heading takes the block after it onto its page. -/
def typesetAll (theme : Theme) : List Block → Text
  | [] => []
  | [.heading level content] => Typst.keepTogether (Typst.heading theme level content)
  | .heading level content :: next :: rest =>
      Typst.keepTogether (Typst.heading theme level content ++ next.typeset theme) ++
        typesetAll theme rest
  | block :: rest => block.typeset theme ++ typesetAll theme rest

end Block

namespace Theme

/-- What stands before the first block: how lines break, pages are numbered and links look. -/
def preamble (theme : Theme) : Text :=
  "#set par(linebreaks: \"optimized\")\n".toList ++
    (if theme.page.numbers then "#set page(numbering: \"1\")\n".toList else []) ++
    "#show link: set text(fill: ".toList ++ Typst.rgb theme.links.color ++ ")\n".toList ++
    (if theme.links.underline then "#show link: underline\n".toList else []) ++ ['\n']

/-- A guide as markup. -/
def typeset (theme : Theme) (blocks : List Block) : Text :=
  theme.preamble ++ Block.typesetAll theme blocks

end Theme

end Guidebook
