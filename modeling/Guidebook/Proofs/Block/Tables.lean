import Guidebook.Proofs.Block.Written
import Guidebook.Proofs.Text.Indenting

namespace Guidebook

/-!
# Tables that are written and read back

A table is written with bars around its cells, a backslash in front of each bar that
belongs to a cell, and a row of dashes below its headers.  Reading gives every cell
back, also when it has backslashes of its own or is empty, and one alignment for each
cell of dashes.
-/

/-- A text with a backslash in front of each of its bars. -/
def escapeBars (text : Text) : Text :=
  text.flatMap fun character => if character = '|' then ['\\', '|'] else [character]

/-- A line with a bar in front of the first of some pieces and one behind each of them. -/
def betweenBars (pieces : List Text) : Line :=
  '|' :: pieces.flatMap (· ++ ['|'])

/-- A cell of a row of dashes: at least one dash, a colon at either end or not, and spaces. -/
structure DashCell where
  spacesBefore : Nat
  leading : Bool
  dashes : Nat
  trailing : Bool
  spacesBehind : Nat
  dashes_pos : 0 < dashes := by decide

namespace DashCell

/-- The dashes of a cell with their colons. -/
def mark (cell : DashCell) : Text :=
  (if cell.leading then [':'] else []) ++ List.replicate cell.dashes '-' ++
    (if cell.trailing then [':'] else [])

/-- A cell of dashes with the spaces around it. -/
def write (cell : DashCell) : Text :=
  List.replicate cell.spacesBefore ' ' ++ cell.mark ++ List.replicate cell.spacesBehind ' '

/-- The alignment that the colons of a cell ask for: centred between two, else towards the one. -/
def alignment (cell : DashCell) : Alignment :=
  if cell.leading ∧ cell.trailing then .center
  else if cell.leading then .left
  else if cell.trailing then .right
  else .none

end DashCell

/-- A table as it is written: the texts of its cells, and a row of dashes. -/
structure TableSource where
  headers : List Text
  separators : List DashCell
  rows : List (List Text)

namespace TableSource

/-- A row of headers or of other cells, with a space at either side of each cell. -/
def writeRow (cells : List Text) : Line :=
  betweenBars (cells.map fun cell => ' ' :: escapeBars cell ++ [' '])

/-- The lines of a table. -/
def lines (table : TableSource) : List Line :=
  writeRow table.headers :: betweenBars (table.separators.map DashCell.write) ::
    table.rows.map writeRow

/-- No row is empty, and every cell is a phrase. -/
structure WellFormed (table : TableSource) : Prop where
  headers : table.headers ≠ []
  separators : table.separators ≠ []
  rows : ∀ row ∈ table.rows, row ≠ []
  cells : ∀ row ∈ table.headers :: table.rows, ∀ cell ∈ row, Text.Phrase cell

end TableSource

/-! ## Dividing a row at its bars -/

/-- A character that is no bar belongs to the first cell, unless it makes a bar one of the text. -/
theorem splitCells_cons
    {character : Char}
    {rest : Text}
    (notBar : character ≠ '|')
    (notEscape : character = '\\' → rest.head? ≠ some '|') :
    splitCells (character :: rest) = consFirst character (splitCells rest) := by
  apply splitCells.eq_4
  · rintro behind isEscape rfl
    exact notEscape isEscape rfl
  · exact notBar

/-- A stretch of a row is divided off as a stretch of one cell, whatever stands behind it. -/
def StandsFor (written cell : Text) : Prop :=
  ∀ behind, splitCells (written ++ behind) = cell.foldr consFirst (splitCells behind)

namespace StandsFor

/-- What stands for cells stands for them one behind the other. -/
theorem append
    {first firstCell second secondCell : Text}
    (standsFirst : StandsFor first firstCell)
    (standsSecond : StandsFor second secondCell) :
    StandsFor (first ++ second) (firstCell ++ secondCell) := by
  intro behind
  simp [List.append_assoc, standsFirst (second ++ behind), standsSecond behind]

/-- A text without bars and backslashes stands for itself. -/
theorem of_plain
    {text : Text}
    (noBar : '|' ∉ text)
    (noEscape : '\\' ∉ text) :
    StandsFor text text := by
  intro behind
  induction text with
  | nil =>
      rfl
  | cons character rest inductionHypothesis =>
      obtain ⟨notBar, noBarBehind⟩ := List.ne_and_not_mem_of_not_mem_cons noBar
      obtain ⟨notEscape, noEscapeBehind⟩ := List.ne_and_not_mem_of_not_mem_cons noEscape
      calc
        splitCells (character :: (rest ++ behind))
            = consFirst character (splitCells (rest ++ behind)) :=
          splitCells_cons notBar.symm fun isEscape => (notEscape isEscape.symm).elim
        _ = consFirst character (rest.foldr consFirst (splitCells behind)) :=
          congrArg (consFirst character) (inductionHypothesis noBarBehind noEscapeBehind)

end StandsFor

/-- Escaping bars only brings in backslashes. -/
theorem mem_of_mem_escapeBars
    {text : Text}
    {character : Char}
    (member : character ∈ escapeBars text) :
    character = '\\' ∨ character ∈ text := by
  obtain ⟨source, isSource, isWritten⟩ := List.mem_flatMap.mp member
  by_cases isBar : source = '|'
  · simp only [isBar, ↓reduceIte, List.mem_cons, List.not_mem_nil, or_false] at isWritten
    exact isWritten.imp_right fun same => by rwa [same, ← isBar]
  · simp only [isBar, ↓reduceIte, List.mem_singleton] at isWritten
    exact .inr (isWritten ▸ isSource)

/-- What follows a character of a cell is never a bare bar, since a backslash comes before it. -/
theorem head?_escapeBars_append
    (cell behind : Text) :
    (escapeBars cell ++ ' ' :: behind).head? ≠ some '|' := by
  cases cell with
  | nil =>
      simp [escapeBars]
  | cons character rest =>
      by_cases isBar : character = '|'
      · simp [escapeBars, isBar]
      · simp [escapeBars, isBar]

/--
A cell is divided off as it was before its bars were escaped.  The space behind it keeps
a backslash at its end away from the bar that ends the cell.
-/
theorem standsFor_escapeBars
    (cell : Text) :
    StandsFor (escapeBars cell ++ [' ']) (cell ++ [' ']) := by
  intro behind
  induction cell with
  | nil =>
      exact splitCells_cons (by decide) nofun
  | cons character rest inductionHypothesis =>
      by_cases isBar : character = '|'
      · subst isBar
        exact congrArg (consFirst '|') inductionHypothesis
      · have notEscape :
            character = '\\' → (escapeBars rest ++ [' '] ++ behind).head? ≠ some '|' := by
          intro _
          simpa using head?_escapeBars_append rest behind
        have escaped : escapeBars (character :: rest) = character :: escapeBars rest := by
          simp [escapeBars, isBar]
        rw [escaped]
        exact (splitCells_cons isBar notEscape).trans
          (congrArg (consFirst character) inductionHypothesis)

section Rows

variable
    {write value : α → Text}
    {sources : List α}

/-- Bars divide a row into what its pieces stand for. -/
theorem splitCells_betweenBars
    (nonempty : sources ≠ [])
    (stands : ∀ source ∈ sources, StandsFor (write source) (value source)) :
    splitCells ((sources.map write).flatMap (· ++ ['|'])).dropLast = sources.map value := by
  induction sources with
  | nil =>
      exact (nonempty rfl).elim
  | cons source rest inductionHypothesis =>
      obtain ⟨standsFirst, standsOthers⟩ := List.forall_mem_cons.mp stands
      cases rest with
      | nil =>
          have single := standsFirst []
          simpa [splitCells, foldr_consFirst_cons] using single
      | cons next rest =>
          -- The bar between two pieces ends the first cell and is part of no other.
          have others := inductionHypothesis (by simp) standsOthers
          have isFirst := standsFirst
            ('|' :: (((next :: rest).map write).flatMap (· ++ ['|'])).dropLast)
          have divided : splitCells ('|' ::
              (((next :: rest).map write).flatMap (· ++ ['|'])).dropLast) =
                [] :: (next :: rest).map value :=
            congrArg (List.cons []) others
          rw [divided, foldr_consFirst_cons] at isFirst
          simpa [List.dropLast_append_of_ne_nil, List.dropLast_cons_of_ne_nil] using isFirst

/-- A row is split into the values of its cells at the bars between them. -/
theorem rowCells?_betweenBars
    (nonempty : sources ≠ [])
    (stands : ∀ source ∈ sources, StandsFor (write source) (value source)) :
    rowCells? (betweenBars (sources.map write)) =
      some (sources.map fun source => (value source).trim) := by
  obtain ⟨front, last, shape⟩ := (List.eq_nil_or_concat' sources).resolve_left nonempty
  have endsInBar : ((sources.map write).flatMap (· ++ ['|'])).getLast? = some '|' := by
    simp [shape]
  rw [betweenBars, rowCells?, if_pos endsInBar, splitCells_betweenBars nonempty stands,
    List.map_map]
  rfl

theorem getLast?_betweenBars
    {pieces : List Text}
    (nonempty : pieces ≠ []) :
    (betweenBars pieces).getLast? = some '|' := by
  obtain ⟨front, last, rfl⟩ := (List.eq_nil_or_concat' pieces).resolve_left nonempty
  simp [betweenBars, List.getLast?_cons]

/-- A row is a line that ends with a bar. -/
theorem finished_betweenBars
    {pieces : List Text}
    (nonempty : pieces ≠ [])
    (oneLine : ∀ piece ∈ pieces, '\n' ∉ piece) :
    Text.Finished (betweenBars pieces) where
  oneLine := by
    simpa [betweenBars] using oneLine
  back := ⟨'|', getLast?_betweenBars nonempty, by decide⟩

theorem trim_betweenBars
    {pieces : List Text}
    (nonempty : pieces ≠ []) :
    (betweenBars pieces).trim = betweenBars pieces := by
  apply Text.trim_eq_self
  · intro first isFirst
    cases isFirst
    decide
  · intro last isLast
    cases (getLast?_betweenBars nonempty).symm.trans isLast
    decide

/-- A line between bars is a row of what its pieces stand for. -/
theorem of_betweenBars
    (nonempty : sources ≠ [])
    (stands : ∀ source ∈ sources, StandsFor (write source) (value source)) :
    LineKind.of (betweenBars (sources.map write)) =
      .row (sources.map fun source => (value source).trim) := by
  have divided := rowCells?_betweenBars nonempty stands
  have trimmed := trim_betweenBars (mt List.map_eq_nil_iff.mp nonempty : sources.map write ≠ [])
  rw [LineKind.of, trimmed]
  simp only [LineKind.ofTrimmed, divided]
  simp [betweenBars, LineKind.isRule]

end Rows

/-! ## Rows of dashes -/

namespace DashCell

/-- A cell of dashes has only colons and dashes in it. -/
theorem eq_colon_or_dash_of_mem_mark
    {cell : DashCell}
    {character : Char}
    (member : character ∈ cell.mark) :
    character = ':' ∨ character = '-' := by
  rcases List.mem_append.mp member with inFront | isTrailing
  · rcases List.mem_append.mp inFront with isLeading | isDash
    · exact .inl (by simpa using (List.mem_ite_nil_right.mp isLeading).2)
    · exact .inr (List.eq_of_mem_replicate isDash)
  · exact .inl (by simpa using (List.mem_ite_nil_right.mp isTrailing).2)

/-- A cell of dashes has nothing in it but colons, dashes and blanks. -/
theorem not_mem_write
    (cell : DashCell)
    {character : Char}
    (isOther : character ≠ ' ' ∧ character ≠ ':' ∧ character ≠ '-') :
    character ∉ cell.write := by
  intro member
  rcases List.mem_append.mp member with inFront | isSpace
  · rcases List.mem_append.mp inFront with isSpace | inMark
    · exact isOther.1 (List.eq_of_mem_replicate isSpace)
    · exact (eq_colon_or_dash_of_mem_mark inMark).elim isOther.2.1 isOther.2.2
  · exact isOther.1 (List.eq_of_mem_replicate isSpace)

/-- Without the blanks around it a cell of dashes is its mark. -/
theorem trim_write
    (cell : DashCell) :
    cell.write.trim = cell.mark := by
  have solid : ∀ character ∈ cell.mark, ¬ isBlank character := by
    intro character member
    rcases eq_colon_or_dash_of_mem_mark member with rfl | rfl
    · decide
    · decide
  calc
    cell.write.trim
        = Text.trim (List.replicate cell.spacesBefore ' ' ++ cell.mark) :=
      Text.trim_append_of_blank _ (Text.isBlankLine_replicate_space _)
    _ = cell.mark.trim :=
      Text.trim_blank_append (Text.isBlankLine_replicate_space _) _
    _ = cell.mark :=
      Text.trim_eq_self (fun first isFirst => solid first (List.mem_of_head? isFirst))
        (fun last isLast => solid last (List.mem_of_getLast? isLast))

/-- The colons of a cell of dashes are read as its alignment. -/
theorem ofCell?_mark
    (cell : DashCell) :
    Alignment.ofCell? cell.mark = some cell.alignment := by
  obtain ⟨before, leading, dashes, trailing, behind, positive⟩ := cell
  obtain ⟨fewer, rfl⟩ := Nat.exists_eq_add_of_lt positive
  cases leading <;> cases trailing <;>
    simp [mark, alignment, Alignment.ofCell?, Alignment.ofColons, List.replicate_succ]

theorem standsFor_write
    (cell : DashCell) :
    StandsFor cell.write cell.write :=
  .of_plain (cell.not_mem_write (by decide)) (cell.not_mem_write (by decide))

/-- A row of dashes sets the alignments of its cells. -/
theorem ofSeparator?_betweenBars
    {cells : List DashCell}
    (nonempty : cells ≠ []) :
    Alignment.ofSeparator? (betweenBars (cells.map write)) = some (cells.map alignment) := by
  have divided : rowCells? (betweenBars (cells.map write)) = some (cells.map mark) := by
    simpa [trim_write] using
      rowCells?_betweenBars nonempty fun cell (_ : cell ∈ cells) => cell.standsFor_write
  have aligned : ∀ cells : List DashCell,
      (cells.map mark).mapM Alignment.ofCell? = some (cells.map alignment) := by
    intro cells
    induction cells with
    | nil =>
        rfl
    | cons cell rest inductionHypothesis =>
        simp [ofCell?_mark, inductionHypothesis]
  simp only [Alignment.ofSeparator?, divided, aligned]

end DashCell

/-! ## Reading a table -/

namespace TableSource

/-- A row is read as the cells that it was written for. -/
theorem of_writeRow
    {cells : List Text}
    (nonempty : cells ≠ [])
    (phrases : ∀ cell ∈ cells, Text.Phrase cell) :
    LineKind.of (writeRow cells) = .row cells := by
  have space : StandsFor [' '] [' '] :=
    .of_plain (by decide) (by decide)
  have stands : ∀ cell ∈ cells,
      StandsFor (' ' :: escapeBars cell ++ [' ']) (' ' :: cell ++ [' ']) :=
    fun cell _ => space.append (standsFor_escapeBars cell)
  have trimmed : cells.map (fun cell => Text.trim (' ' :: cell ++ [' '])) = cells := by
    apply map_eq_self
    intro cell member
    calc
      Text.trim (' ' :: cell ++ [' '])
          = Text.trim ([' '] ++ cell) :=
        Text.trim_append_of_blank _ rfl
      _ = Text.trim cell := Text.trim_blank_append rfl cell
      _ = cell := (phrases cell member).trim_eq
  exact (of_betweenBars nonempty stands).trans (congrArg LineKind.row trimmed)

/-- A written row is a line that ends with a bar. -/
theorem finished_writeRow
    {cells : List Text}
    (nonempty : cells ≠ [])
    (phrases : ∀ cell ∈ cells, Text.Phrase cell) :
    Text.Finished (writeRow cells) := by
  apply finished_betweenBars (mt List.map_eq_nil_iff.mp nonempty)
  rw [List.forall_mem_map]
  intro cell member
  have oneLine := (phrases cell member).oneLine
  have escapedOneLine : '\n' ∉ escapeBars cell :=
    fun isWritten => oneLine ((mem_of_mem_escapeBars isWritten).resolve_left (by decide))
  simpa using escapedOneLine

/-- Every line of a table ends with a bar. -/
theorem WellFormed.finished
    {table : TableSource}
    (wellFormed : table.WellFormed) :
    ∀ line ∈ table.lines, Text.Finished line := by
  obtain ⟨headerCells, rowCells⟩ := List.forall_mem_cons.mp wellFormed.cells
  refine List.forall_mem_cons.mpr ⟨finished_writeRow wellFormed.headers headerCells,
    List.forall_mem_cons.mpr ⟨?_, List.forall_mem_map.mpr fun row member =>
      finished_writeRow (wellFormed.rows row member) (rowCells row member)⟩⟩
  apply finished_betweenBars (mt List.map_eq_nil_iff.mp wellFormed.separators)
  rw [List.forall_mem_map]
  exact fun cell _ => cell.not_mem_write (by decide)

/-- The rows below the dashes are all read, with all of their cells. -/
theorem takeLeading_rows
    {rows : List (List Text)}
    (nonempty : ∀ row ∈ rows, row ≠ [])
    (phrases : ∀ row ∈ rows, ∀ cell ∈ row, Text.Phrase cell) :
    takeLeading cells? (rows.map writeRow) = (rows.map (·.map Span.read), []) := by
  apply takeLeading_map
  intro row member
  simp only [cells?, of_writeRow (nonempty row member) (phrases row member)]

end TableSource

/--
A table is read back as it was written: every cell of its headers and rows, and the
alignment that each cell of dashes asks for.
-/
theorem Block.read_lines_table
    {table : TableSource}
    (wellFormed : table.WellFormed) :
    read (Text.joinLines table.lines) =
      [.table (table.separators.map DashCell.alignment) (table.headers.map Span.read)
        (table.rows.map fun row => row.map Span.read)] := by
  obtain ⟨headerCells, rowCells⟩ := List.forall_mem_cons.mp wellFormed.cells
  have aligned :
      Alignment.ofSeparator?
          (Text.trim (betweenBars (table.separators.map DashCell.write))) =
        some (table.separators.map DashCell.alignment) := by
    rw [trim_betweenBars (mt List.map_eq_nil_iff.mp wellFormed.separators)]
    exact DashCell.ofSeparator?_betweenBars wellFormed.separators
  have taken :
      take (TableSource.writeRow table.headers)
          (betweenBars (table.separators.map DashCell.write) ::
            table.rows.map TableSource.writeRow) =
        (some (.table (table.separators.map DashCell.alignment) (table.headers.map Span.read)
          (table.rows.map fun row => row.map Span.read)), []) := by
    simp only [take, TableSource.of_writeRow wellFormed.headers headerCells, takeTable?, aligned,
      TableSource.takeLeading_rows wellFormed.rows rowCells, Option.map_some]
  calc
    read (Text.joinLines table.lines)
        = ofLines table.lines :=
      read_joinLines (by simp [TableSource.writeRow, betweenBars, isBlank]) wellFormed.finished
    _ = [.table (table.separators.map DashCell.alignment) (table.headers.map Span.read)
          (table.rows.map fun row => row.map Span.read)] :=
      ofLines_eq_singleton taken

/--
Rows may have any number of cells, also empty ones, and a cell may have bars behind
backslashes, a backslash at its end or nothing but dashes.
-/
theorem Block.read_lines_table_ragged :
    let table : TableSource :=
      ⟨[['a', '\\', '|', 'b'], []],
        [{ spacesBefore := 1, leading := true, dashes := 1, trailing := true, spacesBehind := 0 }],
        [[['-', '-', '-']], [['c', '\\'], ['|'], ['d']]]⟩
    table.WellFormed ∧
      read (Text.joinLines table.lines) =
        [.table (table.separators.map DashCell.alignment) (table.headers.map Span.read)
          (table.rows.map fun row => row.map Span.read)] := by
  intro table
  have wellFormed : table.WellFormed :=
    ⟨by decide, by decide, by decide, by decide⟩
  exact ⟨wellFormed, read_lines_table wellFormed⟩

end Guidebook
