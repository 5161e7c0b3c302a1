import Guidebook.Proofs.Block.Alike
import Mathlib.Data.List.Basic

namespace Guidebook

/-!
# Guides that go on

A block takes lines up to one that stops it, and no line behind that one has a
say in what the block is.  So all blocks of a guide but the last stay as they
are when more lines are written behind it, and a blank line keeps even the last
one as it is, unless it is a list or code.
-/

theorem prose?_of_blank
    {line : Line}
    (blank : line.isBlankLine) :
    prose? line = none := by
  rw [prose?, LineKind.of_eq_blank blank]

/-- A blank line carries on no quote. -/
theorem quoted?_of_blank
    {line : Line}
    (blank : line.isBlankLine) :
    quoted? line = none := by
  rw [quoted?, LineKind.of_eq_blank blank]

theorem cells?_of_blank
    {line : Line}
    (blank : line.isBlankLine) :
    cells? line = none := by
  rw [cells?, LineKind.of_eq_blank blank]

/-- No line at all, or a blank one first. -/
def BlankFirst (lines : List Line) : Prop :=
  ∀ first, lines.head? = some first → first.isBlankLine

/-- Lines behind blank ones start with a blank one. -/
theorem BlankFirst.of_blanks
    {blanks lines : List Line}
    (nonempty : blanks ≠ [])
    (allBlank : ∀ line ∈ blanks, line.isBlankLine) :
    BlankFirst (blanks ++ lines) := by
  intro first isFirst
  rw [List.head?_append_of_ne_nil _ nonempty] at isFirst
  exact allBlank first (List.mem_of_head? isFirst)

/-- Nothing is taken where the first line has no value. -/
theorem takeLeading_eq_nil
    {value? : Line → Option α}
    {lines : List Line}
    (stops : ∀ first, lines.head? = some first → value? first = none) :
    takeLeading value? lines = ([], lines) := by
  cases lines with
  | nil =>
      rfl
  | cons first rest =>
      rw [takeLeading, stops first rfl]

section Continues

variable
    {more lines longer : List Line}

/--
The leading lines with a value are the same in a longer text if a line stops
them in the shorter one, or else the lines behind it do.
-/
theorem takeLeading_continues
    {value? : Line → Option α}
    (ignores : IgnoresBlanksBehind value?)
    (continues : Continues more lines longer)
    (stops :
      (takeLeading value? lines).2 ≠ [] ∨
        ∀ first, more.head? = some first → value? first = none) :
    (takeLeading value? longer).1 = (takeLeading value? lines).1 ∧
      Continues more (takeLeading value? lines).2 (takeLeading value? longer).2 := by
  induction continues with
  | nil =>
      rw [takeLeading_eq_nil (stops.resolve_left (by simp [takeLeading]))]
      exact ⟨rfl, .nil⟩
  | @last line notBlank blanks blank =>
      simp only [takeLeading, ignores line blanks notBlank blank] at stops ⊢
      cases found : value? line with
      | none =>
          exact ⟨rfl, .last notBlank blank⟩
      | some value =>
          rw [found] at stops
          rw [takeLeading_eq_nil (stops.resolve_left (by simp))]
          exact ⟨rfl, .nil⟩
  | @cons line lines longer continues inductionHypothesis =>
      simp only [takeLeading] at stops ⊢
      cases found : value? line with
      | none =>
          exact ⟨rfl, .cons line continues⟩
      | some value =>
          rw [found] at stops
          obtain ⟨sameValues, continuesBehind⟩ := inductionHypothesis stops
          exact ⟨congrArg (List.cons value) sameValues, continuesBehind⟩

/-- The lines up to one that is left over with others behind it stand as they are. -/
theorem takeWhile_continues
    {isTaken : Line → Bool}
    (continues : Continues more lines longer)
    (stops : (lines.dropWhile isTaken).drop 1 ≠ []) :
    longer.takeWhile isTaken = lines.takeWhile isTaken ∧
      Continues more ((lines.dropWhile isTaken).drop 1) ((longer.dropWhile isTaken).drop 1) := by
  induction continues with
  | nil =>
      simp at stops
  | last =>
      rw [List.dropWhile_cons] at stops
      split at stops
      · simp at stops
      · simp at stops
  | @cons line lines longer continues inductionHypothesis =>
      by_cases taken : isTaken line
      · rw [List.dropWhile_cons_of_pos taken] at stops
        obtain ⟨sameBehind, continuesBehind⟩ := inductionHypothesis stops
        rw [List.takeWhile_cons_of_pos taken, List.takeWhile_cons_of_pos taken,
          List.dropWhile_cons_of_pos taken, List.dropWhile_cons_of_pos taken, sameBehind]
        exact ⟨rfl, continuesBehind⟩
      · rw [List.takeWhile_cons_of_neg taken, List.takeWhile_cons_of_neg taken,
          List.dropWhile_cons_of_neg taken, List.dropWhile_cons_of_neg taken]
        exact ⟨rfl, continues⟩

namespace Block

/-- Whether a blank line after a block ends it; lists and code go on behind one. -/
def EndsAtBlankLine : Block → Prop
  | heading .. | paragraph .. | table .. | blockquote .. | rule => True
  | codeBlock .. | list .. => False

/--
What the lines behind a part of a guide must be like for that part to stand: they
may be anything if a line of the part is left over, and start with a blank line if
none is.
-/
def Settled (more : List Line) (taken : Option Block × List Line) : Prop :=
  taken.2 ≠ [] ∨ BlankFirst more ∧ ∀ block, taken.1 = some block → block.EndsAtBlankLine

/-- A paragraph that ends before the last line is not changed by more lines. -/
theorem takeParagraph_continues
    (line : Line)
    (continues : Continues more lines longer)
    (stops : (takeParagraph line lines).2 ≠ [] ∨ BlankFirst more) :
    (takeParagraph line longer).1 = (takeParagraph line lines).1 ∧
      Continues more (takeParagraph line lines).2 (takeParagraph line longer).2 := by
  obtain ⟨sameTexts, continuesBehind⟩ :=
    takeLeading_continues seesAlike_prose?.ignoresBlanksBehind continues
      (stops.imp_right fun blankFirst first isFirst => prose?_of_blank (blankFirst first isFirst))
  exact ⟨congrArg (fun texts => paragraph (Span.read (joinWithSpaces (line.trim :: texts))))
    sameTexts, continuesBehind⟩

/-- Fenced code that some line closes is the same whatever stands further on. -/
theorem takeFenced_continues
    (marker : Char)
    (length : Nat)
    (info : Text)
    (continues : Continues more lines longer)
    (isClosed : (takeFenced marker length info lines).2 ≠ []) :
    (takeFenced marker length info longer).1 = (takeFenced marker length info lines).1 ∧
      Continues more (takeFenced marker length info lines).2
        (takeFenced marker length info longer).2 := by
  obtain ⟨sameCode, continuesBehind⟩ := takeWhile_continues continues isClosed
  exact ⟨congrArg (ofCode (languageOf info)) sameCode, continuesBehind⟩

theorem ofSeparator?_trim_eq_none
    {line : Line}
    (blank : line.isBlankLine) :
    Alignment.ofSeparator? line.trim = none := by
  rw [Text.trim_eq_nil_iff.mpr blank]
  rfl

/-- A blank line opens no table for the row before it. -/
theorem takeTable?_blankFirst
    {headers : List Text}
    (blankFirst : BlankFirst more) :
    takeTable? headers more = none := by
  cases more with
  | nil =>
      rfl
  | cons first rest =>
      rw [takeTable?, ofSeparator?_trim_eq_none (blankFirst first rfl)]
      rfl

/-- Whether a table starts below a row is told by the line right behind that row. -/
theorem takeTable?_continues_of_none
    {headers : List Text}
    (continues : Continues more lines longer)
    (stops : lines ≠ [] ∨ BlankFirst more)
    (notFound : takeTable? headers lines = none) :
    takeTable? headers longer = none := by
  cases lines with
  | nil =>
      cases continues
      exact takeTable?_blankFirst (stops.resolve_left (by simp))
  | cons separator rest =>
      obtain ⟨first, others, rfl, -, readsAlike⟩ := continues.uncons
      rw [takeTable?, Option.map_eq_none_iff] at notFound ⊢
      rw [readsAlike seesAlike_trim.ignoresBlanksBehind]
      exact notFound

/-- A table that ends before the last line is not changed by more lines. -/
theorem takeTable?_continues
    {headers : List Text}
    {block : Block}
    {others : List Line}
    (continues : Continues more lines longer)
    (stops : others ≠ [] ∨ BlankFirst more)
    (found : takeTable? headers lines = some (block, others)) :
    ∃ further, takeTable? headers longer = some (block, further) ∧
      Continues more others further := by
  cases lines with
  | nil =>
      simp [takeTable?] at found
  | cons separator rest =>
      obtain ⟨first, behind, rfl, continuesBehind, readsAlike⟩ := continues.uncons
      obtain ⟨alignments, isSeparator, taken⟩ := Option.map_eq_some_iff.mp found
      obtain ⟨rfl, rfl⟩ := Prod.mk.inj taken
      obtain ⟨sameRows, continuesFurther⟩ :=
        takeLeading_continues seesAlike_cells?.ignoresBlanksBehind continuesBehind
          (stops.imp_right fun blankFirst first isFirst =>
            cells?_of_blank (blankFirst first isFirst))
      refine ⟨_, ?_, continuesFurther⟩
      rw [takeTable?, readsAlike seesAlike_trim.ignoresBlanksBehind, isSeparator, ← sameRows]
      rfl

/--
A block is the same in a guide that goes on if a line behind it is left over, or
if a blank line comes next and is not part of it.
-/
theorem take_continues
    (line : Line)
    (continues : Continues more lines longer)
    (settled : Settled more (take line lines)) :
    (take line longer).1 = (take line lines).1 ∧
      Continues more (take line lines).2 (take line longer).2 := by
  have stops : (take line lines).2 ≠ [] ∨ BlankFirst more :=
    settled.imp_right And.left
  cases kind : LineKind.of line with
  | heading | rule | command | blank =>
      simp only [take, kind, true_and]
      exact continues
  | prose =>
      simp only [take, kind] at stops ⊢
      obtain ⟨sameParagraph, continuesBehind⟩ := takeParagraph_continues line continues stops
      exact ⟨congrArg some sameParagraph, continuesBehind⟩
  | quote content =>
      simp only [take, kind] at stops ⊢
      obtain ⟨sameContents, continuesBehind⟩ :=
        takeLeading_continues seesAlike_quoted?.ignoresBlanksBehind continues
          (stops.imp_right fun blankFirst first isFirst =>
            quoted?_of_blank (blankFirst first isFirst))
      exact ⟨congrArg (fun contents => some (ofQuote content contents)) sameContents,
        continuesBehind⟩
  | fence marker length info =>
      -- Code does not end at a blank line, so a line is left over.
      simp only [Settled, take, kind] at settled ⊢
      have isClosed : (takeFenced marker length info lines).2 ≠ [] :=
        settled.resolve_right fun atEnd => atEnd.2 _ rfl
      obtain ⟨sameCode, continuesBehind⟩ :=
        takeFenced_continues marker length info continues isClosed
      exact ⟨congrArg some sameCode, continuesBehind⟩
  | item ordered body =>
      simp only [Settled, take, kind] at settled ⊢
      have isStopped : (takeLeading (entryOf? line.indent) lines).2 ≠ [] :=
        settled.resolve_right fun atEnd => atEnd.2 _ rfl
      obtain ⟨sameEntries, continuesBehind⟩ :=
        takeLeading_continues (seesAlike_entryOf? line.indent).ignoresBlanksBehind continues
          (.inl isStopped)
      rw [sameEntries]
      exact ⟨rfl, continuesBehind⟩
  | row headers =>
      simp only [take, kind] at stops ⊢
      cases table : takeTable? headers lines with
      | none =>
          simp only [table] at stops ⊢
          have tableStops : lines ≠ [] ∨ BlankFirst more := by
            refine stops.imp_left fun left isNil => ?_
            rw [isNil] at left
            exact left rfl
          rw [takeTable?_continues_of_none continues tableStops table]
          obtain ⟨sameParagraph, continuesBehind⟩ :=
            takeParagraph_continues line continues stops
          exact ⟨congrArg some sameParagraph, continuesBehind⟩
      | some taken =>
          obtain ⟨block, others⟩ := taken
          simp only [table] at stops ⊢
          obtain ⟨further, sameTable, continuesBehind⟩ :=
            takeTable?_continues continues stops table
          rw [sameTable]
          exact ⟨rfl, continuesBehind⟩

/-- The block of the first line, when it begins one, and those of the lines behind it. -/
theorem ofLines_cons
    (line : Line)
    (rest : List Line) :
    ofLines (line :: rest) = (take line rest).1.toList ++ ofLines (take line rest).2 := by
  rw [ofLines]

/-- Blank lines in front make no blocks. -/
theorem ofLines_blanks
    {blanks : List Line}
    (allBlank : ∀ line ∈ blanks, line.isBlankLine)
    (lines : List Line) :
    ofLines (blanks ++ lines) = ofLines lines := by
  induction blanks with
  | nil =>
      rfl
  | cons line blanks inductionHypothesis =>
      obtain ⟨blank, blankBehind⟩ := List.forall_mem_cons.mp allBlank
      rw [List.cons_append, ofLines_cons, take, LineKind.of_eq_blank blank]
      exact inductionHypothesis blankBehind

/-- A line that goes on is taken like the one it goes on from. -/
theorem take_uncons
    {line : Line}
    (continues : Continues more (line :: lines) longer)
    (settled : Settled more (take line lines)) :
    ∃ others,
      ofLines longer = (take line lines).1.toList ++ ofLines others ∧
        Continues more (take line lines).2 others := by
  obtain ⟨first, rest, rfl, continuesBehind, readsAlike⟩ := continues.uncons
  obtain ⟨sameBlock, continuesFurther⟩ := take_continues line continuesBehind settled
  refine ⟨(take line rest).2, ?_, continuesFurther⟩
  rw [ofLines_cons, readsAlike (seesAlike_take rest).ignoresBlanksBehind, sameBlock]

/-- Lines that go on begin with the same blocks, but for the last one. -/
theorem dropLast_ofLines_prefix
    (continues : Continues more lines longer) :
    (ofLines lines).dropLast <+: ofLines longer := by
  fun_induction ofLines lines generalizing longer with
  | case1 =>
      exact List.nil_prefix
  | case2 line rest block? others taken inductionHypothesis =>
      by_cases isLast : others = []
      · -- Of a single block nothing is left without the last one.
        subst isLast
        cases block? with
        | none | some =>
            simp [ofLines]
      · have settled : Settled more (take line rest) := by
          rw [taken]
          exact .inl isLast
        obtain ⟨further, sameBlocks, continuesBehind⟩ := take_uncons continues settled
        rw [taken] at sameBlocks continuesBehind
        rw [sameBlocks]
        have later := inductionHypothesis continuesBehind
        by_cases onlyBlanks : ofLines others = []
        · rw [onlyBlanks, List.append_nil]
          exact (List.dropLast_prefix _).trans (List.prefix_append _ _)
        · rw [List.dropLast_append_of_ne_nil onlyBlanks]
          exact (List.prefix_append_right_inj _).mpr later

/-- Lines that go on with a blank one have all the blocks, if that line ends the last of them. -/
theorem ofLines_continues
    (continues : Continues more lines longer)
    (blankFirst : BlankFirst more)
    (ended : ∀ block, (ofLines lines).getLast? = some block → block.EndsAtBlankLine) :
    ofLines longer = ofLines lines ++ ofLines more := by
  fun_induction ofLines lines generalizing longer with
  | case1 =>
      cases continues
      rfl
  | case2 line rest block? others taken inductionHypothesis =>
      have endedBehind :
          ∀ block, (ofLines others).getLast? = some block → block.EndsAtBlankLine := by
        intro block isLast
        apply ended block
        rw [List.getLast?_append, isLast]
        rfl
      have settled : Settled more (take line rest) := by
        rw [taken]
        by_cases isLast : others = []
        · subst isLast
          refine .inr ⟨blankFirst, ?_⟩
          rintro block rfl
          exact ended block (by simp [ofLines])
        · exact .inl isLast
      obtain ⟨further, sameBlocks, continuesBehind⟩ := take_uncons continues settled
      rw [taken] at sameBlocks continuesBehind
      rw [sameBlocks, inductionHypothesis continuesBehind endedBehind, List.append_assoc]

end Block

end Continues

namespace Block

/-- A guide of blanks has no blocks. -/
theorem read_eq_nil_of_blank
    {text : Text}
    (blank : text.isBlankLine) :
    read text = [] := by
  rw [read, Text.trim_eq_nil_iff.mpr blank, Text.lines, ofLines]

/-- A blank line and text behind it go on from a text with blank lines and those of that text. -/
theorem exists_continues_blank_line
    {first : Text}
    (notBlank : ¬ first.isBlankLine)
    {character : Char}
    (solid : ¬ isBlank character)
    (rest : Text) :
    ∃ blanks : List Line, blanks ≠ [] ∧ (∀ line ∈ blanks, line.isBlankLine) ∧
      Continues (blanks ++ Text.lines (Text.trim (character :: rest))) first.trim.lines
        (Text.lines (Text.trim (first ++ '\n' :: '\n' :: character :: rest))) := by
  have restNotBlank : ¬ Text.isBlankLine (character :: rest) := by
    rw [Text.isBlankLine_iff]
    exact fun allBlank => solid (allBlank character (by simp))
  have behindNotBlank : ¬ Text.isBlankLine (['\n'] ++ character :: rest) := by
    rw [Text.isBlankLine_append, Bool.and_eq_true]
    exact fun bothBlank => restNotBlank bothBlank.2
  obtain ⟨blanks, allBlank, continues⟩ := Text.exists_continues_lines_trim notBlank behindNotBlank
  have trimmed : Text.trim (character :: rest) = Text.trimEnd (character :: rest) := by
    rw [Text.trim, Text.trimStart, List.dropWhile_cons_of_neg solid]
  have linesBehind :
      Text.lines (Text.trimEnd (['\n'] ++ character :: rest)) =
        [] :: Text.lines (Text.trim (character :: rest)) := by
    rw [Text.trimEnd_append _ restNotBlank, trimmed]
    rfl
  rw [linesBehind, List.append_cons] at continues
  exact ⟨blanks ++ [[]], by simp,
    List.forall_mem_append.mpr ⟨allBlank, List.forall_mem_singleton.mpr rfl⟩, continues⟩

/--
All blocks of a guide but the last one are, in order, the first blocks of any
guide that starts with the same lines.
-/
theorem dropLast_read_prefix_read_append
    (text more : Text) :
    (read text).dropLast <+: read (text ++ '\n' :: more) := by
  by_cases blank : text.isBlankLine
  · rw [read_eq_nil_of_blank blank]
    exact List.nil_prefix
  · by_cases moreBlank : more.isBlankLine
    · have tailBlank : Text.isBlankLine ('\n' :: more) := moreBlank
      rw [read, read, text.trim_append_of_blank tailBlank]
      exact List.dropLast_prefix _
    · obtain ⟨blanks, -, continues⟩ := Text.exists_continues_lines_trim blank moreBlank
      exact dropLast_ofLines_prefix continues

/--
Guides with a blank line between them are read one after the other, if the last
block of the first one is no list and no code, and the second one is not indented.
-/
theorem read_append_blank_line
    {first second : Text}
    (ended : ∀ block, (read first).getLast? = some block → block.EndsAtBlankLine)
    (unindented : ∀ character, second.head? = some character → isBlank character = false) :
    read (first ++ '\n' :: '\n' :: second) = read first ++ read second := by
  cases second with
  | nil =>
      have tailBlank : Text.isBlankLine ['\n', '\n'] := rfl
      have nothing : read [] = [] := read_eq_nil_of_blank rfl
      rw [nothing, List.append_nil, read, read, first.trim_append_of_blank tailBlank]
  | cons character rest =>
      by_cases blank : first.isBlankLine
      · have leadBlank : Text.isBlankLine (first ++ ['\n', '\n']) := by
          rw [Text.isBlankLine_append, blank]
          rfl
        rw [read_eq_nil_of_blank blank, List.nil_append, read, read,
          ← Text.trim_blank_append leadBlank (character :: rest), List.append_assoc]
        rfl
      · have solid : ¬ isBlank character := by
          simp [unindented character rfl]
        obtain ⟨blanks, someBlanks, allBlank, continues⟩ :=
          exists_continues_blank_line blank solid rest
        have whole := ofLines_continues continues (.of_blanks someBlanks allBlank) ended
        rw [ofLines_blanks allBlank] at whole
        exact whole

/-- A blank line parts a table from a row that would belong to it without that line. -/
theorem read_append_blank_line_table :
    (∀ block,
        (read ['|', 'b', '|', '\n', '|', '-', '|']).getLast? = some block →
        block.EndsAtBlankLine) ∧
      (∀ character,
        List.head? ['|', 'c', '|'] = some character → isBlank character = false) ∧
      read (['|', 'b', '|', '\n', '|', '-', '|'] ++ '\n' :: '\n' :: ['|', 'c', '|']) =
        read ['|', 'b', '|', '\n', '|', '-', '|'] ++ read ['|', 'c', '|'] := by
  have isTable :
      (read ['|', 'b', '|', '\n', '|', '-', '|']).getLast? =
        some (.table [.none] [[.text "b"]] []) := by
    cbv
  have ended :
      ∀ block,
        (read ['|', 'b', '|', '\n', '|', '-', '|']).getLast? = some block →
        block.EndsAtBlankLine := by
    intro block isLast
    rw [isTable, Option.some.injEq] at isLast
    rw [← isLast]
    trivial
  have unindented :
      ∀ character,
        List.head? ['|', 'c', '|'] = some character → isBlank character = false := by
    intro character isFirst
    rw [List.head?_cons, Option.some.injEq] at isFirst
    rw [← isFirst]
    rfl
  exact ⟨ended, unindented, read_append_blank_line ended unindented⟩

end Block

end Guidebook
