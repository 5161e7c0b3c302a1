import Guidebook.Proofs.Block.Sections
import Mathlib

namespace Guidebook

/-!
# Where paragraphs begin and end

Lines are put to two kinds of tests.  A turn of reading asks what block a line opens,
where a row also needs a row of dashes behind it; a paragraph asks of each line that
follows whether it is interrupted there.  The two agree but for rows: any row
interrupts a paragraph, also one that opens no table and so begins another paragraph.
-/

namespace Block

/-- Whether a block is a paragraph. -/
def isParagraph : Block → Bool
  | .paragraph _ => true
  | _ => false

/-- Whether a line opens a block other than a paragraph when these lines come behind it. -/
def OpensOther (line : Line) (rest : List Line) : Prop :=
  (LineKind.heading? line.trim).isSome ∨ LineKind.isRule line.trim ∨
    (line.trim.isBarred ∧ opensTable rest) ∨ line.trim.head? = some '>' ∨
    (LineKind.fence? line.trim).isSome ∨ line.trim.head? = some '$' ∨
    (LineKind.item? line.trim).isSome

/-- Whether a line ends the paragraph before it, whatever comes behind it. -/
def Interrupts (line : Line) : Prop :=
  (LineKind.heading? line.trim).isSome ∨ LineKind.isRule line.trim ∨ line.trim.isBarred ∨
    line.trim.head? = some '>' ∨ (LineKind.fence? line.trim).isSome ∨
    line.trim.head? = some '$' ∨ (LineKind.item? line.trim).isSome

/-- A line that ends a paragraph opens another block, or it is a row. -/
theorem interrupts_iff
    {line : Line}
    (rest : List Line) :
    Interrupts line ↔ OpensOther line rest ∨ line.trim.isBarred := by
  unfold Interrupts OpensOther
  tauto

/-- The lines that carry on a paragraph are those that neither are blank nor interrupt it. -/
theorem isSome_prose?_iff
    {line : Line} :
    (prose? line).isSome ↔ ¬ line.isBlankLine ∧ ¬ Interrupts line := by
  have isProse : (prose? line).isSome ↔ LineKind.of line = .prose := by
    unfold prose?
    split
    · next isProse =>
        simp [isProse]
    · next notProse =>
        simpa using notProse
  rw [isProse, LineKind.of, (LineKind.tested_ofTrimmed line.trim).eq_prose_iff, Interrupts, ne_eq,
    Text.trim_eq_nil_iff, ← isSome_rowCells?_iff]
  simp only [not_or, Bool.not_eq_true, Option.isSome_eq_false_iff, Option.isNone_iff_eq_none]
  tauto

/-- A row opens another block only by opening a table. -/
theorem opensOther_of_isBarred
    {line : Line}
    (barred : line.trim.isBarred)
    (rest : List Line) :
    OpensOther line rest ↔ opensTable rest := by
  obtain ⟨notQuote, notCommand, notRule, noHeading, noFence, noItem⟩ :=
    LineKind.not_passes_of_isBarred barred
  simp [OpensOther, barred, notQuote, notCommand, notRule, noHeading, noFence, noItem]

/-- A table is taken just where a row opens one. -/
theorem isSome_takeTable?
    (headers : List Text)
    (rest : List Line) :
    (takeTable? headers rest).isSome = opensTable rest := by
  have sameEnd := congrArg Option.isSome (takeTable?_rest headers rest)
  rw [Option.isSome_map] at sameEnd
  rw [sameEnd]
  split <;> simp_all

/-- A table that is taken is no paragraph. -/
theorem isParagraph_of_takeTable?
    {headers : List Text}
    {rest others : List Line}
    {block : Block}
    (found : takeTable? headers rest = some (block, others)) :
    ¬ block.isParagraph := by
  cases rest with
  | nil =>
      simp [takeTable?] at found
  | cons separator rest =>
      obtain ⟨alignments, -, taken⟩ := Option.map_eq_some_iff.mp found
      obtain ⟨rfl, -⟩ := Prod.mk.inj taken
      simp [isParagraph]

/-- A line that is told to be of another kind opens a block of that kind. -/
theorem opensOther_of_kind
    {line : Line}
    (solid : LineKind.of line ≠ .blank)
    (notProse : LineKind.of line ≠ .prose)
    (notRow : ∀ cells, LineKind.of line ≠ .row cells)
    (rest : List Line) :
    OpensOther line rest := by
  have stops : ¬ (prose? line).isSome := by
    simp [prose?]
  have interrupts : Interrupts line := by
    by_contra carriesOn
    exact stops (isSome_prose?_iff.mpr ⟨fun blank => solid (LineKind.of_eq_blank blank), carriesOn⟩)
  refine ((interrupts_iff rest).mp interrupts).resolve_right fun barred => ?_
  obtain ⟨cells, isRow⟩ :=
    (LineKind.tested_ofTrimmed line.trim).exists_eq_row_iff.mpr barred
  exact notRow cells isRow

/-- A line of prose, or a row without a table, begins a paragraph. -/
theorem take_eq_takeParagraph
    {line : Line}
    {rest : List Line}
    (solid : ¬ line.isBlankLine)
    (opensNoOther : ¬ OpensOther line rest) :
    take line rest = (some (takeParagraph line rest).1, (takeParagraph line rest).2) := by
  cases kind : LineKind.of line with
  | blank =>
      exact (solid (LineKind.of_eq_blank_iff.mp kind)).elim
  | prose =>
      simp only [take, kind]
  | row headers =>
      have barred : line.trim.isBarred :=
        (LineKind.tested_ofTrimmed line.trim).exists_eq_row_iff.mp ⟨headers, kind⟩
      have noTable : takeTable? headers rest = none := by
        rw [opensOther_of_isBarred barred, ← isSome_takeTable? headers] at opensNoOther
        simpa using opensNoOther
      simp only [take, kind, noTable]
  | heading | rule | fence | command | item | quote =>
      have opens : OpensOther line rest := by
        apply opensOther_of_kind <;> simp [kind]
      exact (opensNoOther opens).elim

/-- A line that opens another block begins no paragraph. -/
theorem not_isParagraph_take
    {line : Line}
    {rest : List Line}
    (opensOther : OpensOther line rest) :
    ¬ (take line rest).1.any isParagraph := by
  cases kind : LineKind.of line with
  | blank | heading | rule | fence | command | item =>
      simp [take, kind, takeFenced, ofCode, isParagraph]
  | quote content =>
      simp only [take, kind, ofQuote]
      split <;> simp [isParagraph]
  | prose =>
      have carriesOn : (prose? line).isSome := by
        simp [prose?, kind]
      have notInterrupts := (isSome_prose?_iff.mp carriesOn).2
      rw [interrupts_iff rest, not_or] at notInterrupts
      exact (notInterrupts.1 opensOther).elim
  | row headers =>
      have barred : line.trim.isBarred :=
        (LineKind.tested_ofTrimmed line.trim).exists_eq_row_iff.mp ⟨headers, kind⟩
      rw [opensOther_of_isBarred barred, ← isSome_takeTable? headers,
        Option.isSome_iff_exists] at opensOther
      obtain ⟨⟨block, others⟩, found⟩ := opensOther
      simp [take, kind, found, isParagraph_of_takeTable? found]

/-- A turn makes a paragraph of just those lines that are not blank and open no other block. -/
theorem isParagraph_take_iff
    (line : Line)
    (rest : List Line) :
    (take line rest).1.any isParagraph ↔ ¬ line.isBlankLine ∧ ¬ OpensOther line rest := by
  constructor
  · intro made
    refine ⟨fun blank => ?_, fun opensOther => not_isParagraph_take opensOther made⟩
    simp [take, LineKind.of_eq_blank blank] at made
  · rintro ⟨solid, opensNoOther⟩
    simp [take_eq_takeParagraph solid opensNoOther, takeParagraph, isParagraph]

/-! ## The lines of a paragraph -/

/-- Whether a line carries on the paragraph before it. -/
def carriesOn (line : Line) : Bool :=
  (prose? line).isSome

/-- The texts of a paragraph are those of its lines, without the blanks around them. -/
theorem takeLeading_prose?_fst
    (lines : List Line) :
    (takeLeading prose? lines).1 = (lines.takeWhile carriesOn).map Text.trim := by
  induction lines with
  | nil =>
      rfl
  | cons line rest inductionHypothesis =>
      rw [takeLeading]
      split
      · next refused =>
          simp [carriesOn, refused]
      · next text found =>
          have isTrimmed : text = line.trim := by
            unfold prose? at found
            split at found
            · exact (Option.some.inj found).symm
            · cases found
          simp [carriesOn, found, isTrimmed, inductionHypothesis]

/-- A paragraph is read from its first line and those that carry it on. -/
theorem takeParagraph_eq
    (line : Line)
    (rest : List Line) :
    takeParagraph line rest =
      (.paragraph (Span.read (joinWithSpaces ((line :: rest.takeWhile carriesOn).map Text.trim))),
        rest.dropWhile carriesOn) := by
  have behind : (takeLeading prose? rest).2 = rest.dropWhile carriesOn :=
    takeLeading_snd prose? rest
  simp only [takeParagraph, takeLeading_prose?_fst, behind, List.map_cons]

/-- The lines of a section. -/
def Section.lines (part : Section) (lines : List Line) : List Line :=
  (lines.drop part.start).take (part.stop - part.start)

/-- Whether a section is a paragraph. -/
def Section.isParagraph (part : Section) : Bool :=
  part.block?.any Block.isParagraph

/-- Whether a turn that stands at a place makes a paragraph. -/
def makesParagraph (lines : List Line) (place : Nat) : Bool :=
  (sectionAt? lines place).any Section.isParagraph

/-- A turn makes a paragraph where the line is not blank and opens no other block. -/
theorem makesParagraph_iff
    {lines : List Line}
    {place : Nat}
    {line : Line}
    (stands : lines[place]? = some line) :
    makesParagraph lines place ↔
      ¬ line.isBlankLine ∧ ¬ OpensOther line (lines.drop (place + 1)) := by
  rw [← isParagraph_take_iff]
  simp [makesParagraph, sectionAt?, stands, Section.isParagraph]

/-- A line that carries on a paragraph would begin one itself. -/
theorem makesParagraph_of_carriesOn
    {lines : List Line}
    {place : Nat}
    {line : Line}
    (stands : lines[place]? = some line)
    (carries : carriesOn line) :
    makesParagraph lines place := by
  obtain ⟨solid, notInterrupts⟩ := isSome_prose?_iff.mp carries
  rw [interrupts_iff (lines.drop (place + 1)), not_or] at notInterrupts
  exact (makesParagraph_iff stands).mpr ⟨solid, notInterrupts.1⟩

/-- A line that begins a paragraph, and would not carry on one before it, is a row. -/
theorem isBarred_of_not_carriesOn
    {lines : List Line}
    {place : Nat}
    {line : Line}
    (stands : lines[place]? = some line)
    (stops : ¬ carriesOn line)
    (makes : makesParagraph lines place) :
    line.trim.isBarred ∧ ¬ opensTable (lines.drop (place + 1)) := by
  obtain ⟨solid, opensNoOther⟩ := (makesParagraph_iff stands).mp makes
  have interrupts : Interrupts line := by
    by_contra notInterrupts
    exact stops (isSome_prose?_iff.mpr ⟨solid, notInterrupts⟩)
  have barred := ((interrupts_iff _).mp interrupts).resolve_left opensNoOther
  exact ⟨barred, fun opens => opensNoOther ((opensOther_of_isBarred barred _).mpr opens)⟩

/-- The turn that made a paragraph: it took a line and those that carry on behind it. -/
structure ParagraphTurn (lines : List Line) (part : Section) (line : Line) : Prop where
  stands : lines[part.start]? = some line
  makes : makesParagraph lines part.start
  takes : part.lines lines = line :: (lines.drop (part.start + 1)).takeWhile carriesOn
  leaves : lines.drop part.stop = (lines.drop (part.start + 1)).dropWhile carriesOn
  block :
    part.block? =
      some (.paragraph (Span.read (joinWithSpaces ((part.lines lines).map Text.trim))))

/-- The lines of a section and what is left behind it are the lines from its start on. -/
theorem Turn.lines_append
    {lines : List Line}
    {line : Line}
    {part : Section}
    (turn : Turn lines part.start line part) :
    part.lines lines ++ lines.drop part.stop = line :: lines.drop (part.start + 1) := by
  obtain ⟨isInside, isLine⟩ := List.getElem?_eq_some_iff.mp turn.stands
  have behind : lines.drop part.stop = (lines.drop part.start).drop (part.stop - part.start) := by
    rw [List.drop_drop, Nat.add_sub_cancel' turn.forward.le]
  rw [behind, Section.lines, List.take_append_drop, List.drop_eq_getElem_cons isInside, isLine]

/-- A section that is a paragraph was made by a turn that took one. -/
theorem exists_paragraphTurn
    {lines : List Line}
    {part : Section}
    (member : part ∈ sections lines)
    (made : part.isParagraph) :
    ∃ line, ParagraphTurn lines part line := by
  obtain ⟨line, turn⟩ := exists_turn (sectionAt?_start member)
  have makes : (take line (lines.drop (part.start + 1))).1.any isParagraph := by
    rw [← turn.makes]
    exact made
  obtain ⟨solid, opensNoOther⟩ := (isParagraph_take_iff _ _).mp makes
  have taken := take_eq_takeParagraph solid opensNoOther
  rw [takeParagraph_eq] at taken
  have leaves : lines.drop part.stop = (lines.drop (part.start + 1)).dropWhile carriesOn := by
    rw [turn.leaves, taken]
  have takes : part.lines lines = line :: (lines.drop (part.start + 1)).takeWhile carriesOn := by
    have divided := turn.lines_append
    rw [leaves] at divided
    apply List.append_cancel_right
    rw [divided, List.cons_append, List.takeWhile_append_dropWhile]
  refine ⟨line, turn.stands, ?_, takes, leaves, ?_⟩
  · exact (makesParagraph_iff turn.stands).mpr ⟨solid, opensNoOther⟩
  · rw [turn.makes, taken, takes]

namespace ParagraphTurn

variable {lines : List Line} {part : Section} {line : Line}

/-- A turn that stood on any of the lines of a paragraph would make a paragraph. -/
theorem makesParagraph
    (turn : ParagraphTurn lines part line)
    {place : Nat}
    {other : Line}
    (stands : lines[place]? = some other)
    (behindStart : part.start ≤ place)
    (beforeStop : place < part.stop) :
    Block.makesParagraph lines place := by
  obtain ⟨offset, rfl⟩ := Nat.exists_eq_add_of_le behindStart
  cases offset with
  | zero =>
      exact turn.makes
  | succ offset =>
      have isTaken : (part.lines lines)[offset + 1]? = some other := by
        rw [Section.lines, List.getElem?_take_of_lt (by omega), List.getElem?_drop]
        exact stands
      rw [turn.takes, List.getElem?_cons_succ] at isTaken
      exact makesParagraph_of_carriesOn stands
        (List.mem_takeWhile_imp (List.mem_of_getElem? isTaken))

/-- The line behind a paragraph does not carry it on. -/
theorem not_carriesOn
    (turn : ParagraphTurn lines part line)
    {other : Line}
    (stands : lines[part.stop]? = some other) :
    ¬ carriesOn other := by
  have isFirst : (lines.drop part.stop).head? = some other := by
    rw [List.head?_drop]
    exact stands
  rw [turn.leaves] at isFirst
  have stops := List.head?_dropWhile_not carriesOn (lines.drop (part.start + 1))
  rw [isFirst] at stops
  simpa using stops

end ParagraphTurn

/-- Sections that follow each other do so without a gap. -/
theorem Tiles.start_eq_stop
    {stop place : Nat}
    {parts : List Section}
    (tiles : Tiles stop place parts)
    {part next : Section}
    (adjacent : [part, next] <:+: parts) :
    next.start = part.stop := by
  induction tiles with
  | nil =>
      simp at adjacent
  | @cons place first others starts _ tiles inductionHypothesis =>
      rcases List.infix_cons_iff.mp adjacent with atStart | later
      · obtain ⟨rfl, rest⟩ := List.cons_prefix_cons.mp atStart
        cases tiles with
        | nil =>
            simp at rest
        | cons follows =>
            obtain ⟨rfl, -⟩ := List.cons_prefix_cons.mp rest
            exact follows
      · exact inductionHypothesis later

/-- A line that is not blank begins a paragraph or some other block. -/
theorem exists_other_of_not_makesParagraph
    {lines : List Line}
    {place : Nat}
    {line : Line}
    (stands : lines[place]? = some line)
    (solid : ¬ line.isBlankLine)
    (makesNone : ¬ makesParagraph lines place) :
    ∃ part block, sectionAt? lines place = some part ∧ part.block? = some block ∧
      ¬ block.isParagraph := by
  cases found : sectionAt? lines place with
  | none =>
      simp [sectionAt?, stands] at found
  | some part =>
      obtain ⟨_, turn⟩ := exists_turn found
      cases made : part.block? with
      | none =>
          obtain ⟨blank, -⟩ := turn.of_block?_eq_none made
          rw [Option.some.inj (stands.symm.trans turn.stands)] at solid
          exact (solid blank).elim
      | some block =>
          refine ⟨part, block, rfl, made, fun isParagraph => makesNone ?_⟩
          simp [makesParagraph, found, Section.isParagraph, made, isParagraph]

/-- How a paragraph stands among the lines that it was read from. -/
structure StandsAsParagraph (lines : List Line) (part : Section) (content : List Span) : Prop where
  /-- It has a line at least, and no line that is not there. -/
  inside :
    part.start < part.stop ∧ part.stop ≤ lines.length
  /-- None of its lines is blank, and a turn on any of them would make a paragraph of it. -/
  carried :
    ∀ place line, lines[place]? = some line → part.start ≤ place → place < part.stop →
      ¬ line.isBlankLine ∧ makesParagraph lines place
  /-- It is read from its lines, each without the blanks around it, with spaces between. -/
  joined :
    content = Span.read (joinWithSpaces ((part.lines lines).map Text.trim))
  /-- If a line comes behind it, that line is blank, begins another block, or is a row. -/
  stops :
    ∀ line, lines[part.stop]? = some line →
      line.isBlankLine ∨ line.trim.isBarred ∨
        ∃ other block, sectionAt? lines part.stop = some other ∧ other.block? = some block ∧
          ¬ block.isParagraph
  /-- A paragraph right behind it begins with a row that opens no table. -/
  apart :
    ∀ next, [part, next] <:+: sections lines → next.isParagraph →
      ∃ line, lines[next.start]? = some line ∧ line.trim.isBarred ∧
        ¬ opensTable (lines.drop (next.start + 1))

/--
A paragraph goes on as long as its lines would begin a paragraph themselves and are no
rows.  So it ends where the dispatch of lines to blocks sees something else, and two
paragraphs touch only where the second one begins with a row.
-/
theorem standsAsParagraph_of_mem_sections
    (text : Text) :
    read text = (sections text.trim.lines).filterMap Section.block? ∧
      ∀ part ∈ sections text.trim.lines, ∀ content, part.block? = some (.paragraph content) →
        StandsAsParagraph text.trim.lines part content := by
  refine ⟨read_eq_filterMap text, fun part member content made => ?_⟩
  generalize text.trim.lines = lines at member ⊢
  have isParagraph : part.isParagraph := by
    simp [Section.isParagraph, made, Block.isParagraph]
  obtain ⟨line, turn⟩ := exists_paragraphTurn member isParagraph
  constructor
  case inside =>
    obtain ⟨_, moved⟩ := exists_turn (sectionAt?_start member)
    exact ⟨moved.forward, moved.inside⟩
  case carried =>
    intro place other stands behindStart beforeStop
    have makes := turn.makesParagraph stands behindStart beforeStop
    exact ⟨((makesParagraph_iff stands).mp makes).1, makes⟩
  case joined =>
    rw [turn.block, Option.some.injEq, Block.paragraph.injEq] at made
    exact made.symm
  case stops =>
    intro other stands
    by_cases blank : other.isBlankLine
    · exact .inl blank
    · by_cases makes : makesParagraph lines part.stop
      · exact .inr (.inl (isBarred_of_not_carriesOn stands (turn.not_carriesOn stands) makes).1)
      · exact .inr (.inr (exists_other_of_not_makesParagraph stands blank makes))
  case apart =>
    intro next adjacent nextIsParagraph
    have isNext := (tiles_sectionsFrom (Nat.zero_le lines.length)).start_eq_stop adjacent
    have nextMember : next ∈ sections lines :=
      adjacent.subset (by simp)
    obtain ⟨other, nextTurn⟩ := exists_paragraphTurn nextMember nextIsParagraph
    refine ⟨other, nextTurn.stands, ?_⟩
    exact isBarred_of_not_carriesOn nextTurn.stands
      (turn.not_carriesOn (isNext ▸ nextTurn.stands)) nextTurn.makes

/-- A paragraph of two lines ends in front of a row, which begins another one. -/
theorem standsAsParagraph_of_mem_sections_row :
    let text : Text := ['a', '\n', ' ', 'b', '\n', '|', 'c', '|', '\n', 'd']
    let part : Section := ⟨0, 2, some (.paragraph [.text "a b"])⟩
    part ∈ sections text.trim.lines ∧ StandsAsParagraph text.trim.lines part [.text "a b"] := by
  intro text part
  have isSection : sections text.trim.lines =
      [part, ⟨2, 4, some (.paragraph [.text "|c| d"])⟩] := by
    cbv
  have member : part ∈ sections text.trim.lines := by
    rw [isSection]
    exact List.mem_cons_self
  exact ⟨member, (standsAsParagraph_of_mem_sections text).2 part member [.text "a b"] rfl⟩

end Block

end Guidebook
