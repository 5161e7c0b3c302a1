import Guidebook.Proofs.Typst.Enclosure
import Guidebook.Typst.Guide

namespace Guidebook

/-!
# Markup that closes what it opens

Each emitter is known by what its text leaves open.  Text, addresses, colours and
code reach the markup behind backslashes or in string literals, which is why none
of them can close anything.  So the markup of a guide in any theme never closes
what has not been opened, and it ends with nothing open.
-/

namespace Typst

open Enclosure

/-! ## Text -/

/-- A character that means nothing in markup opens and closes nothing. -/
theorem markupStep_of_plain
    {character : Char}
    (plain : ¬ isMarkup character)
    (opened : List Enclosure) :
    markupStep opened character = some opened := by
  rw [markupStep]
  all_goals
    rintro rfl
    exact plain rfl

/-- Escaped text is read as text: each sign in it stands behind a backslash. -/
theorem closed_escape
    (text : Text) :
    Closed (escape text) := by
  refine .flatMap fun character _ => ?_
  unfold escapeCharacter
  split
  · rfl
  · next plain =>
      exact .of_step (markupStep_of_plain plain [])

/-- A string literal ends with its own quote, and the code around it goes on. -/
theorem leaves_quote
    (parentheses : Nat)
    (text : Text) :
    Leaves [.code parentheses] (quote text) [.code parentheses] := by
  have inside :
      Leaves [.literal, .code parentheses] (text.flatMap quoteCharacter)
        [.literal, .code parentheses] := by
    refine .flatMap fun character _ => ?_
    fun_cases quoteCharacter character with
    | case1 | case2 | case3 =>
        rfl
    | case4 notQuote notBackslash =>
        refine .of_step ?_
        rw [step, literalStep]
        · exact notBackslash
        · exact notQuote
  have start : Leaves [.code parentheses] ['"'] [.literal, .code parentheses] :=
    rfl
  have ending : Leaves [.literal, .code parentheses] ['"'] [.code parentheses] :=
    rfl
  exact start.append (inside.append ending)

theorem leaves_rgb
    (parentheses : Nat)
    (color : Color) :
    Leaves [.code parentheses] (rgb color) [.code parentheses] := by
  have start : Leaves [.code parentheses] "rgb(".toList [.code (parentheses + 1)] :=
    .of_literal rfl
  have ending : Leaves [.code (parentheses + 1)] [')'] [.code parentheses] :=
    rfl
  exact (start.append (leaves_quote _ _)).append ending

/-- A number means nothing but itself, in markup and in code. -/
theorem leaves_decimal
    {opened : List Enclosure}
    (inMarkupOrCode : opened = [] ∨ opened = [.code 1])
    (value : Nat) :
    Leaves opened (Text.decimal value) opened := by
  have keeps : ∀ character ∈ Text.decimal value, Leaves opened [character] opened := by
    intro character member
    have isDigit : character.isDigit :=
      Nat.isDigit_of_mem_toDigits (by decide) (by decide) member
    refine .of_step ?_
    -- No character that a step looks for is a digit.
    rcases inMarkupOrCode with rfl | rfl
    · rw [step, markupStep]
      all_goals
        rintro rfl
        exact absurd isDigit (by decide)
    · rw [step, codeStep]
      all_goals
        rintro rfl
        exact absurd isDigit (by decide)
  rw [← List.flatMap_singleton' (Text.decimal value)]
  exact .flatMap keeps

/-! ## Spans -/

/-- Raw code in markup is a string literal in a call, so it leaves nothing open. -/
theorem closed_raw
    (text : Text) :
    Closed (raw text) := by
  have start : Leaves [] "#raw(".toList [.code 1] :=
    .of_literal rfl
  have ending : Leaves [.code 1] ");".toList [] :=
    .of_literal rfl
  exact (start.append (leaves_quote _ _)).append ending

/-- A call around content that leaves nothing open leaves nothing open. -/
theorem closed_wrap
    {name : String}
    (isWord : Leaves [.code 0] name.toList [.code 0])
    {content : Text}
    (closed : Closed content) :
    Closed (wrap name content) := by
  have sign : Leaves [] ['#'] [.code 0] :=
    rfl
  have start : Leaves [.code 0] ['['] [.content, .code 0] :=
    rfl
  have inside : Leaves [.content, .code 0] content [.content, .code 0] :=
    closed.inside _
  have ending : Leaves [.content, .code 0] "];".toList [] :=
    .of_literal rfl
  exact (sign.append isWord).append (start.append inside) |>.append ending

theorem closed_link_none
    (url : Text) :
    Closed (link url none) := by
  have start : Leaves [] "#link(".toList [.code 1] :=
    .of_literal rfl
  have ending : Leaves [.code 1] [')', ';'] [] :=
    rfl
  rw [link_none, List.append_assoc]
  exact (start.append (leaves_quote _ _)).append ending

/-- A link leaves nothing open when its label does not. -/
theorem closed_link_some
    (url : Text)
    {label : Text}
    (closed : Closed label) :
    Closed (link url (some label)) := by
  have start : Leaves [] "#link(".toList [.code 1] :=
    .of_literal rfl
  have opening : Leaves [.code 1] [')', '['] [.content, .code 0] :=
    rfl
  have ending : Leaves [.content, .code 0] [']', ';'] [] :=
    rfl
  have whole := start.append (leaves_quote 1 url) |>.append opening |>.around closed ending
  rw [Closed, link_some]
  simpa using whole

end Typst

mutual

/-- The markup of a span leaves nothing open. -/
theorem Span.closed_typeset
    (span : Span) :
    Typst.Closed span.typeset := by
  cases span with
  | text content =>
      rw [typeset]
      exact Typst.closed_escape content.toList
  | bold content | italic content | strikethrough content =>
      rw [typeset]
      exact Typst.closed_wrap (.of_literal rfl) (closed_typesetAll content)
  | code content =>
      rw [typeset]
      exact Typst.closed_raw content.toList
  | link url content =>
      rw [typeset]
      split
      · exact Typst.closed_link_none url.toList
      · exact Typst.closed_link_some url.toList (closed_typesetAll content)
  | image alt url =>
      rw [typeset]
      exact Typst.closed_link_some url.toList (Typst.closed_escape _)

theorem Span.closed_typesetAll
    (spans : List Span) :
    Typst.Closed (typesetAll spans) := by
  cases spans with
  | nil =>
      rfl
  | cons span rest =>
      rw [typesetAll]
      exact span.closed_typeset.append (closed_typesetAll rest)

end

namespace Typst

open Enclosure

/-! ## Lists and tables -/

/-- A character that changes nothing does so however often it is repeated. -/
theorem leaves_replicate
    {opened : List Enclosure}
    {character : Char}
    (keeps : step opened character = some opened)
    (count : Nat) :
    Leaves opened (List.replicate count character) opened := by
  rw [← List.flatMap_singleton' (List.replicate count character)]
  refine .flatMap fun other member => ?_
  rw [List.eq_of_mem_replicate member]
  exact .of_step keeps

/-- A task box is a symbol with no call left open. -/
theorem closed_taskBox
    (checked : Option Bool) :
    Closed (taskBox checked) := by
  cases checked with
  | none =>
      rfl
  | some ticked =>
      cases ticked with
      | true | false =>
          exact .of_literal rfl

/-- The line of an item leaves nothing open for the line below it. -/
theorem closed_itemLine
    (depth : Nat)
    (ordered : Bool)
    (checked : Option Bool)
    (content : List Span) :
    Closed (itemLine depth ordered checked content) := by
  have indent : Closed (List.replicate (2 * depth) ' ') :=
    leaves_replicate rfl _
  have marker : Closed [if ordered then '+' else '-', ' '] := by
    cases ordered with
    | true | false =>
        rfl
  have lineEnd : Closed ['\n'] :=
    rfl
  exact (indent.append (marker.append (closed_taskBox checked)))
    |>.append (Span.closed_typesetAll content) |>.append lineEnd

end Typst

mutual

/-- The markup of a list leaves nothing open, however deep it nests. -/
theorem ItemList.closed_typeset
    (depth : Nat)
    (list : ItemList) :
    Typst.Closed (list.typeset depth) := by
  cases list with
  | mk ordered items =>
      rw [ItemList.typeset]
      exact Item.closed_typesetAll depth ordered items

/-- The markup of items and of the lists below them leaves nothing open. -/
theorem Item.closed_typesetAll
    (depth : Nat)
    (ordered : Bool)
    (items : List Item) :
    Typst.Closed (Item.typesetAll depth ordered items) := by
  cases items with
  | nil =>
      rfl
  | cons item rest =>
      have restClosed := Item.closed_typesetAll depth ordered rest
      cases item with
      | mk content checked nested =>
          have line := Typst.closed_itemLine depth ordered checked content
          cases nested with
          | none =>
              rw [Item.typesetAll]
              exact line.append restClosed
          | some list =>
              rw [Item.typesetAll]
              exact (line.append (list.closed_typeset (depth + 1))).append restClosed

end

namespace Typst

open Enclosure

/-- The word for an alignment stands in code and changes nothing there. -/
theorem leaves_alignment
    (word : Alignment)
    (parentheses : Nat) :
    Leaves [.code parentheses] (alignment word).toList [.code parentheses] := by
  cases word with
  | none | left | center | right =>
      exact .of_literal rfl

/-- The alignments of all columns stay inside the call of the table. -/
theorem leaves_columnAlignments
    (columns : Nat)
    (alignments : List Alignment) :
    Leaves [.code 1] (columnAlignments columns alignments) [.code 1] := by
  unfold columnAlignments
  split
  · rfl
  · have start : Leaves [.code 1] "  align: (".toList [.code 2] :=
      .of_literal rfl
    have comma : Leaves [.code 2] ", ".toList [.code 2] :=
      .of_literal rfl
    have words :
        ∀ word ∈ (List.range columns).map fun column =>
            (alignment (alignments.getD column .none)).toList,
          Leaves [.code 2] word [.code 2] := by
      intro word member
      obtain ⟨column, -, rfl⟩ := List.mem_map.mp member
      exact leaves_alignment _ 2
    have ending : Leaves [.code 2] ",),\n".toList [.code 1] :=
      .of_literal rfl
    exact (start.append (.intercalate comma words)).append ending

/-- A header cell is an argument in the call of the table, which stays open around it. -/
theorem leaves_headerCell
    (cell : Cell) :
    Leaves [.code 1] (headerCell cell) [.code 1] := by
  have start : Leaves [.code 1] "  [#strong[".toList [.content, .code 0, .content, .code 1] :=
    .of_literal rfl
  have ending : Leaves [.content, .code 0, .content, .code 1] "]],\n".toList [.code 1] :=
    .of_literal rfl
  exact start.around (Span.closed_typesetAll cell) ending

theorem leaves_bodyCell
    (cell : Cell) :
    Leaves [.code 1] (bodyCell cell) [.code 1] := by
  have start : Leaves [.code 1] "  [".toList [.content, .code 1] :=
    .of_literal rfl
  have ending : Leaves [.content, .code 1] "],\n".toList [.code 1] :=
    .of_literal rfl
  exact start.around (Span.closed_typesetAll cell) ending

/-- A table is one call that is closed behind its last cell. -/
theorem closed_table
    (alignments : List Alignment)
    (headers : List Cell)
    (rows : List (List Cell)) :
    Closed (table alignments headers rows) := by
  unfold table
  split
  · rfl
  · have start : Leaves [] "#table(\n  columns: ".toList [.code 1] :=
      .of_literal rfl
    have lineEnd : Leaves [.code 1] ",\n".toList [.code 1] :=
      .of_literal rfl
    have headerCells : Leaves [.code 1] (headers.flatMap headerCell) [.code 1] :=
      .flatMap fun cell _ => leaves_headerCell cell
    have bodyRows : Leaves [.code 1] (rows.flatMap (bodyRow headers.length)) [.code 1] :=
      .flatMap fun row _ => .flatMap fun column _ => leaves_bodyCell (row.getD column [])
    have ending : Leaves [.code 1] ")\n".toList [] :=
      .of_literal rfl
    exact start.append (leaves_decimal (.inr rfl) _) |>.append lineEnd
      |>.append (leaves_columnAlignments _ _) |>.append headerCells |>.append bodyRows
      |>.append ending

end Typst

/-! ## Code -/

namespace CodeStyle

open Typst Enclosure

/-- A fragment of code is set as a call around a string literal, and is closed. -/
theorem closed_typesetFragment
    (style : CodeStyle)
    (fragment : Fragment) :
    Closed (fragment.typeset style) := by
  unfold Fragment.typeset
  split
  · exact closed_raw fragment.text
  · next kind _ =>
      have start : Leaves [] "#text(fill: ".toList [.code 1] :=
        .of_literal rfl
      have opening : Leaves [.code 1] ")[".toList [.content, .code 0] :=
        .of_literal rfl
      have ending : Leaves [.content, .code 0] "];".toList [] :=
        .of_literal rfl
      exact start.append (leaves_rgb _ _) |>.append opening
        |>.around (closed_raw fragment.text) ending

/-- The number of a line is an argument in the call of the listing. -/
theorem leaves_typesetNumber
    (style : CodeStyle)
    (lineNumber : Nat) :
    Leaves [.code 1] (style.typesetNumber lineNumber) [.code 1] := by
  unfold typesetNumber
  split
  · have start : Leaves [.code 1] "  [#text(fill: ".toList [.code 1, .content, .code 1] :=
      .of_literal rfl
    have color := (leaves_rgb 1 style.gutter).within [.code 1]
    have opening :
        Leaves [.code 1, .content, .code 1] ")[".toList
          [.content, .code 0, .content, .code 1] :=
      .of_literal rfl
    have number : Closed (Text.decimal lineNumber) :=
      leaves_decimal (.inl rfl) lineNumber
    have ending : Leaves [.content, .code 0, .content, .code 1] "]],\n".toList [.code 1] :=
      .of_literal rfl
    exact start.append color |>.append opening |>.around number ending
  · rfl

/-- A line of code is an argument in that call, with its number before it. -/
theorem leaves_typesetLine
    (style : CodeStyle)
    (lineNumber : Nat)
    (line : List Fragment) :
    Leaves [.code 1] (style.typesetLine lineNumber line) [.code 1] := by
  have start : Leaves [.code 1] "  [".toList [.content, .code 1] :=
    .of_literal rfl
  have fragments : Closed (line.flatMap (Fragment.typeset style)) :=
    .flatMap fun fragment _ => style.closed_typesetFragment fragment
  have ending : Leaves [.content, .code 1] "],\n".toList [.code 1] :=
    .of_literal rfl
  exact (style.leaves_typesetNumber lineNumber).append start |>.around fragments ending

/-- All lines of code are arguments in that call. -/
theorem leaves_typesetLines
    (style : CodeStyle)
    (lineNumber : Nat)
    (lines : List (List Fragment)) :
    Leaves [.code 1] (style.typesetLines lineNumber lines) [.code 1] := by
  induction lines generalizing lineNumber with
  | nil =>
      rfl
  | cons line rest inductionHypothesis =>
      rw [typesetLines]
      exact (style.leaves_typesetLine lineNumber line).append (inductionHypothesis (lineNumber + 1))

/-- A listing is one call that is closed behind its last line. -/
theorem closed_typesetCode
    (style : CodeStyle)
    (language : String)
    (lines : List String) :
    Closed (style.typesetCode language lines) := by
  -- The text between two parts closes the one and opens the other, so that neither is
  -- closed alone: what is open is followed from part to part.
  have start :
      Leaves [] "#block(breakable: false, width: 100%, inset: 8pt, radius: 4pt, fill: ".toList
        [.code 1] :=
    .of_literal rfl
  have setText :
      Leaves [.code 1] ")[\n#set text(size: 8pt, fill: ".toList [.code 1, .content, .code 0] :=
    .of_literal rfl
  have label :
      Leaves [.code 1, .content, .code 0] ")\n#text(fill: ".toList
        [.code 1, .content, .code 0] :=
    .of_literal rfl
  have opening :
      Leaves [.code 1, .content, .code 0] ")[".toList
        [.content, .code 0, .content, .code 0] :=
    .of_literal rfl
  have grid :
      Leaves [.content, .code 0, .content, .code 0] "]\n\n#grid(\n  columns: ".toList
        [.code 1, .content, .code 0] :=
    .of_literal rfl
  have columns :
      Leaves [.code 1, .content, .code 0]
        (if style.lineNumbers then "(auto, 1fr)" else "(1fr,)").toList
        [.code 1, .content, .code 0] := by
    split
    · exact .of_literal rfl
    · exact .of_literal rfl
  have gutters :
      Leaves [.code 1, .content, .code 0]
        ",\n  column-gutter: 8pt,\n  row-gutter: 4pt,\n".toList [.code 1, .content, .code 0] :=
    .of_literal rfl
  have ending : Leaves [.code 1, .content, .code 0] ")\n]\n\n".toList [] :=
    .of_literal rfl
  have color (color : Color) :=
    (leaves_rgb 1 color).within [.code 0]
  have rows (code : List (List Fragment)) :=
    (style.leaves_typesetLines 1 code).within [.code 0]
  exact start.append (leaves_rgb _ _) |>.append setText |>.append (color _) |>.append label
    |>.append (color _) |>.append opening |>.around (closed_raw _) grid
    |>.append columns |>.append gutters |>.append (rows _) |>.append ending

end CodeStyle

/-! ## Guides -/

namespace Typst

open Enclosure

/-- What is kept on one page is content of a call that is closed. -/
theorem closed_keepTogether
    {content : Text}
    (closed : Closed content) :
    Closed (keepTogether content) := by
  have start : Leaves [] "#block(breakable: false)[\n".toList [.content, .code 0] :=
    .of_literal rfl
  have ending : Leaves [.content, .code 0] "]\n\n".toList [] :=
    .of_literal rfl
  exact start.around closed ending

/-- A heading leaves nothing open, although it starts with a mark of its own. -/
theorem closed_heading
    (theme : Theme)
    (level : Nat)
    (content : List Span) :
    Closed (heading theme level content) := by
  have signs (depth : Nat) : Closed (List.replicate depth '=') :=
    leaves_replicate rfl depth
  have space : Closed [' '] :=
    rfl
  have ending : Closed "\n\n".toList :=
    .of_literal rfl
  exact (signs _).append (space.append (Span.closed_typesetAll content)) |>.append ending

theorem closed_paragraph
    (content : List Span) :
    Closed (paragraph content) := by
  have ending : Closed "\n\n".toList :=
    .of_literal rfl
  exact (Span.closed_typesetAll content).append ending

theorem closed_paragraphs
    (paragraphs : List (List Span)) :
    Closed (paragraphs.flatMap paragraph) :=
  .flatMap fun content _ => closed_paragraph content

/-- A quote is content of a call that is closed behind its paragraphs. -/
theorem closed_quotation
    (paragraphs : List (List Span)) :
    Closed (quotation paragraphs) := by
  have start : Leaves [] "#quote(block: true)[\n".toList [.content, .code 0] :=
    .of_literal rfl
  have ending : Leaves [.content, .code 0] "]\n\n".toList [] :=
    .of_literal rfl
  exact start.around (closed_paragraphs paragraphs) ending

theorem closed_title
    (callout : Callout) :
    Closed callout.title.toList := by
  cases callout with
  | note | tip | important | warning | caution =>
      exact .of_literal rfl

/-- An admonition leaves nothing open, whatever colour the theme gives it. -/
theorem closed_admonition
    (theme : Theme)
    (callout : Callout)
    (paragraphs : List (List Span)) :
    Closed (admonition theme callout paragraphs) := by
  have start :
      Leaves [] "#block(breakable: false, width: 100%, inset: 8pt, fill: ".toList [.code 1] :=
    .of_literal rfl
  have stroke : Leaves [.code 1] ".lighten(85%), stroke: (left: 3pt + ".toList [.code 2] :=
    .of_literal rfl
  have label :
      Leaves [.code 2] "))[\n#text(fill: ".toList [.code 1, .content, .code 0] :=
    .of_literal rfl
  have labelColor (color : Color) :=
    (leaves_rgb 1 color).within [.code 0]
  have opening :
      Leaves [.code 1, .content, .code 0] ", weight: \"bold\")[".toList
        [.content, .code 0, .content, .code 0] :=
    .of_literal rfl
  have titleEnd :
      Leaves [.content, .code 0, .content, .code 0] "]\n\n".toList [.content, .code 0] :=
    .of_literal rfl
  have ending : Leaves [.content, .code 0] "]\n\n".toList [] :=
    .of_literal rfl
  exact start.append (leaves_rgb _ _) |>.append stroke |>.append (leaves_rgb _ _)
    |>.append label |>.append (labelColor _) |>.append opening
    |>.around (closed_title callout) titleEnd |>.around (closed_paragraphs paragraphs) ending

end Typst

namespace Block

open Typst

/-- The markup of each block leaves nothing open. -/
theorem closed_typeset
    (theme : Theme)
    (block : Block) :
    Closed (block.typeset theme) := by
  fun_cases typeset theme block with
  | case1 level content =>
      exact closed_heading theme level content
  | case2 content =>
      exact closed_paragraph content
  | case3 language lines =>
      exact theme.code.closed_typesetCode language lines
  | case4 items =>
      exact closed_keepTogether (items.closed_typeset 0)
  | case5 items =>
      have ending : Closed ['\n'] :=
        rfl
      exact (items.closed_typeset 0).append ending
  | case6 alignments headers rows =>
      exact closed_keepTogether (closed_table alignments headers rows)
  | case7 paragraphs =>
      exact closed_quotation paragraphs
  | case8 callout paragraphs =>
      exact closed_admonition theme callout paragraphs
  | case9 =>
      exact .of_literal rfl

/-- The markup of a guide leaves nothing open, with what it keeps together. -/
theorem closed_typesetAll
    (theme : Theme)
    (blocks : List Block) :
    Closed (typesetAll theme blocks) := by
  fun_induction typesetAll theme blocks with
  | case1 =>
      rfl
  | case2 level content =>
      exact closed_keepTogether (closed_heading theme level content)
  | case3 level content next rest inductionHypothesis =>
      have together := (closed_heading theme level content).append (next.closed_typeset theme)
      exact (closed_keepTogether together).append inductionHypothesis
  | case4 block rest _ _ inductionHypothesis =>
      exact (block.closed_typeset theme).append inductionHypothesis

end Block

namespace Theme

open Typst

/-- The rules in front of a guide are closed, with any strings as colours. -/
theorem closed_preamble
    (theme : Theme) :
    Closed theme.preamble := by
  have paragraphs : Closed "#set par(linebreaks: \"optimized\")\n".toList :=
    .of_literal rfl
  have numbering :
      Closed (if theme.page.numbers then "#set page(numbering: \"1\")\n".toList else []) := by
    split
    · exact .of_literal rfl
    · rfl
  have start : Leaves [] "#show link: set text(fill: ".toList [.code 1] :=
    .of_literal rfl
  have ending : Leaves [.code 1] ")\n".toList [] :=
    .of_literal rfl
  have underline :
      Closed (if theme.links.underline then "#show link: underline\n".toList else []) := by
    split
    · exact .of_literal rfl
    · rfl
  have lineEnd : Closed ['\n'] :=
    rfl
  exact paragraphs.append numbering |>.append start |>.append (leaves_rgb _ _)
    |>.append ending |>.append underline |>.append lineEnd

/--
The markup of a guide is structurally closed: no closer is met without its opener,
every string literal ends, and behind the last character there is markup with
nothing open.
-/
theorem scan_typeset
    (theme : Theme)
    (blocks : List Block) :
    Enclosure.scan [] (theme.typeset blocks) = some [] :=
  theme.closed_preamble.append (Block.closed_typesetAll theme blocks)

end Theme

end Guidebook
