import Guidebook.Block.LineKind
import Guidebook.Proofs.Text.Lines

namespace Guidebook

/-!
# What the kind of a line tells

A line has been given a kind because it passed the test for that kind, and a line of
prose because it passed none.  So the kind says something about the text of the line:
only a line of blanks is blank, headings are no deeper than headings go, rows
have cells, and a command stands in its line as it is.
-/

/-- A row has a cell even where there is nothing between its bars. -/
theorem splitCells_ne_nil
    (text : Text) :
    splitCells text ≠ [] := by
  fun_cases splitCells text with
  | case1 | case3 =>
      exact List.cons_ne_nil _ _
  | case2 | case4 =>
      exact consFirst_ne_nil _ _

/-- A line that is a row has at least one cell. -/
theorem ne_nil_of_rowCells?
    {line : Line}
    {cells : List Text}
    (found : rowCells? line = some cells) :
    cells ≠ [] := by
  unfold rowCells? at found
  split at found
  · next rest =>
      rw [Option.ite_none_right_eq_some, Option.some.injEq] at found
      rw [← found.2, ne_eq, List.map_eq_nil_iff]
      exact splitCells_ne_nil rest.dropLast
  · cases found

/-- Whether a line stands between two bars. -/
def Text.isBarred (line : Text) : Bool :=
  2 ≤ line.length && line.head? == some '|' && line.getLast? == some '|'

/-- The lines that are rows are those between two bars. -/
theorem isSome_rowCells?_iff
    {line : Text} :
    (rowCells? line).isSome ↔ line.isBarred := by
  cases line with
  | nil =>
      simp [rowCells?, Text.isBarred]
  | cons first rest =>
      by_cases isBar : first = '|'
      · subst isBar
        cases rest with
        | nil =>
            simp [rowCells?, Text.isBarred]
        | cons second others =>
            simp [rowCells?, Text.isBarred, List.getLast?_cons_cons]
      · simp [rowCells?, Text.isBarred, isBar]

namespace LineKind

/-- What the kind of a line says about the text of the line without the blanks around it. -/
def Fits (line : Text) : LineKind → Prop
  | .heading level _ => 1 ≤ level ∧ level ≤ maxHeadingLevel
  | .row cells => cells ≠ []
  | .command text => text <:+ line
  | .blank => line = []
  | .rule | .quote _ | .fence _ _ _ | .item _ _ | .prose => True

/-- The level of a heading is from one to six, however many signs it has. -/
theorem fits_heading?
    {line : Text}
    {kind : LineKind}
    (found : heading? line = some kind) :
    kind.Fits line := by
  simp only [heading?] at found
  split at found
  · cases found
  · rw [Option.ite_none_right_eq_some, Option.some.injEq] at found
    obtain ⟨⟨positive, -⟩, rfl⟩ := found
    exact ⟨Nat.le_min.mpr ⟨positive, by decide⟩, Nat.min_le_right _ _⟩

theorem exists_of_heading?
    {line : Text}
    {kind : LineKind}
    (found : heading? line = some kind) :
    ∃ level content, kind = .heading level content := by
  simp only [heading?] at found
  split at found
  · cases found
  · rw [Option.ite_none_right_eq_some, Option.some.injEq] at found
    exact ⟨_, _, found.2.symm⟩

theorem exists_of_fence?
    {line : Text}
    {kind : LineKind}
    (found : fence? line = some kind) :
    ∃ marker length info, kind = .fence marker length info := by
  unfold fence? at found
  split at found
  · cases found
  · rw [Option.ite_none_right_eq_some, Option.some.injEq] at found
    exact ⟨_, _, _, found.2.symm⟩

theorem exists_of_item?
    {line : Text}
    {kind : LineKind}
    (found : item? line = some kind) :
    ∃ ordered body, kind = .item ordered body := by
  unfold item? at found
  split at found
  · exact ⟨_, _, (Option.some.inj found).symm⟩
  · exact ⟨_, _, (Option.some.inj found).symm⟩
  · split at found
    · rw [Option.ite_none_right_eq_some, Option.some.injEq] at found
      exact ⟨_, _, found.2.symm⟩
    · cases found

/-- The test that a line without blanks around it passes when it is told to be of some kind. -/
inductive Tested (line : Text) : LineKind → Prop where
  | blank :
      line = [] →
      Tested line .blank
  | quote
      {content : Text} :
      line.head? = some '>' →
      Tested line (.quote content)
  | command
      {text : Text} :
      line = '$' :: text →
      Tested line (.command text.trimStart)
  | rule :
      isRule line →
      Tested line .rule
  | row
      {cells : List Text} :
      rowCells? line = some cells →
      Tested line (.row cells)
  | heading
      {level : Nat}
      {content : Text} :
      heading? line = some (.heading level content) →
      Tested line (.heading level content)
  | fence
      {marker : Char}
      {length : Nat}
      {info : Text} :
      fence? line = some (.fence marker length info) →
      Tested line (.fence marker length info)
  | item
      {ordered : Bool}
      {body : Text} :
      item? line = some (.item ordered body) →
      Tested line (.item ordered body)
  | prose :
      line ≠ [] →
      line.head? ≠ some '>' →
      line.head? ≠ some '$' →
      ¬ isRule line →
      rowCells? line = none →
      heading? line = none →
      fence? line = none →
      item? line = none →
      Tested line .prose

/-- The kind of a line is one whose test the line passes. -/
theorem tested_ofTrimmed
    (line : Text) :
    Tested line (ofTrimmed line) := by
  unfold ofTrimmed
  split
  · exact .blank rfl
  · exact .quote rfl
  · exact .quote rfl
  · exact .command rfl
  · next notNil _ notQuote notCommand =>
      split
      · next isRule =>
          exact .rule isRule
      · next notRule =>
          split
          · next kind found =>
              simp only [Option.orElse_eq_orElse, Option.orElse_eq_or] at found
              rcases Option.or_eq_some_iff.mp found with isRow | ⟨-, found⟩
              · obtain ⟨cells, isCells, rfl⟩ := Option.map_eq_some_iff.mp isRow
                exact .row isCells
              rcases Option.or_eq_some_iff.mp found with isHeading | ⟨-, found⟩
              · obtain ⟨level, content, rfl⟩ := exists_of_heading? isHeading
                exact .heading isHeading
              rcases Option.or_eq_some_iff.mp found with isFence | ⟨-, isItem⟩
              · obtain ⟨marker, length, info, rfl⟩ := exists_of_fence? isFence
                exact .fence isFence
              · obtain ⟨ordered, body, rfl⟩ := exists_of_item? isItem
                exact .item isItem
          · next nothing =>
              simp only [Option.orElse_eq_orElse, Option.orElse_eq_or, Option.or_eq_none_iff,
                Option.map_eq_none_iff] at nothing
              obtain ⟨noRow, noHeading, noFence, noItem⟩ := nothing
              refine .prose notNil ?_ ?_ notRule noRow noHeading noFence noItem
              · rw [ne_eq, List.head?_eq_some_iff, not_exists]
                exact notQuote
              · rw [ne_eq, List.head?_eq_some_iff, not_exists]
                exact notCommand

/-- A line that passed the test for a kind is as the kind says. -/
theorem Tested.fits
    {line : Text}
    {kind : LineKind}
    (tested : Tested line kind) :
    kind.Fits line := by
  cases tested with
  | blank isNil =>
      exact isNil
  | command shape =>
      rw [shape]
      exact (List.dropWhile_suffix _).trans (List.suffix_cons _ _)
  | row isRow =>
      exact ne_nil_of_rowCells? isRow
  | heading isHeading =>
      exact fits_heading? isHeading
  | quote | rule | fence | item | prose =>
      trivial

/-- The kind of a line says something true of the line. -/
theorem fits_of
    (line : Line) :
    (of line).Fits line.trim :=
  (tested_ofTrimmed line.trim).fits

/-! ## The first character tells most tests apart -/

/-- A heading starts with a number sign. -/
theorem head?_of_heading?
    {line : Text}
    (passes : (heading? line).isSome) :
    line.head? = some '#' := by
  cases line with
  | nil =>
      simp [heading?] at passes
  | cons first rest =>
      by_cases isMark : first = '#'
      · rw [isMark, List.head?_cons]
      · simp [heading?, Text.runLength, isMark] at passes

/-- A rule starts with a dash or a star. -/
theorem head?_of_isRule
    {line : Text}
    (passes : isRule line) :
    line.head? = some '-' ∨ line.head? = some '*' := by
  simp only [isRule, Bool.or_eq_true, beq_iff_eq] at passes
  rcases passes with (rfl | rfl) | rfl
  · exact .inl rfl
  · exact .inr rfl
  · exact .inr rfl

/-- A fence starts with a backtick or a tilde. -/
theorem head?_of_fence?
    {line : Text}
    (passes : (fence? line).isSome) :
    line.head? = some '\x60' ∨ line.head? = some '~' := by
  cases line with
  | nil =>
      simp [fence?] at passes
  | cons first rest =>
      rw [fence?, Option.isSome_ite] at passes
      simp_all

/-- An item starts with a star, a dash or a digit. -/
theorem head?_of_item?
    {line : Text}
    (passes : (item? line).isSome) :
    line.head? = some '*' ∨ line.head? = some '-' ∨ line.head?.any isDecimalDigit := by
  unfold item? at passes
  split at passes
  · exact .inl rfl
  · exact .inr (.inl rfl)
  · split at passes
    · simp_all
    · cases passes

/-- A row starts with a bar. -/
theorem head?_of_isBarred
    {line : Text}
    (barred : line.isBarred) :
    line.head? = some '|' := by
  simp only [Text.isBarred, Bool.and_eq_true, beq_iff_eq] at barred
  exact barred.1.2

/-- A line between bars passes no test but the one for rows. -/
theorem not_passes_of_isBarred
    {line : Text}
    (barred : line.isBarred) :
    line.head? ≠ some '>' ∧ line.head? ≠ some '$' ∧ ¬ isRule line ∧
      ¬ (heading? line).isSome ∧ ¬ (fence? line).isSome ∧ ¬ (item? line).isSome := by
  have isBar := head?_of_isBarred barred
  have noDigit : isDecimalDigit '|' = false := by
    decide
  refine ⟨by simp [isBar], by simp [isBar], fun passes => ?_, fun passes => ?_, fun passes => ?_,
    fun passes => ?_⟩
  · simpa [isBar] using head?_of_isRule passes
  · simpa [isBar] using head?_of_heading? passes
  · simpa [isBar] using head?_of_fence? passes
  · simpa [isBar, noDigit] using head?_of_item? passes

namespace Tested

variable {line : Text} {kind : LineKind}

/-- A line of prose is one that passes no test at all. -/
theorem eq_prose_iff
    (tested : Tested line kind) :
    kind = .prose ↔
      line ≠ [] ∧ line.head? ≠ some '>' ∧ line.head? ≠ some '$' ∧ ¬ isRule line ∧
        rowCells? line = none ∧ heading? line = none ∧ fence? line = none ∧
        item? line = none := by
  cases tested with
  | prose notNil notQuote notCommand notRule noRow noHeading noFence noItem =>
      exact ⟨fun _ => ⟨notNil, notQuote, notCommand, notRule, noRow, noHeading, noFence, noItem⟩,
        fun _ => rfl⟩
  | blank | quote | command | rule | row | heading | fence | item =>
      simp_all

/-- A line between bars is a row, since it passes no other test. -/
theorem exists_eq_row_iff
    (tested : Tested line kind) :
    (∃ cells, kind = .row cells) ↔ line.isBarred := by
  constructor
  · rintro ⟨cells, rfl⟩
    cases tested with
    | row isRow =>
        rw [← isSome_rowCells?_iff, isRow]
        rfl
  · intro barred
    have isRow := isSome_rowCells?_iff.mpr barred
    obtain ⟨notQuote, notCommand, notRule, noHeading, noFence, noItem⟩ :=
      not_passes_of_isBarred barred
    cases tested with
    | row =>
        exact ⟨_, rfl⟩
    | blank | quote | command | rule | heading | fence | item | prose =>
        simp_all [Text.isBarred]

end Tested

/-! ## The tests that carry on quotes and lists -/

/-- A line is told to be quoted just when it starts with the mark of quotes. -/
theorem exists_ofTrimmed_eq_quote_iff
    {line : Text} :
    (∃ content, ofTrimmed line = .quote content) ↔ line.head? = some '>' := by
  constructor
  · rintro ⟨content, isQuote⟩
    have tested := tested_ofTrimmed line
    rw [isQuote] at tested
    cases tested with
    | quote marked =>
        exact marked
  · intro marked
    obtain ⟨rest, rfl⟩ := List.head?_eq_some_iff.mp marked
    unfold ofTrimmed
    split
    · next isNil =>
        cases isNil
    · exact ⟨_, rfl⟩
    · exact ⟨_, rfl⟩
    · next isCommand =>
        cases isCommand
    · next notQuote _ =>
        exact absurd rfl (notQuote rest)

/-- A rule is told to be one before anything else that it could be. -/
theorem ofTrimmed_of_isRule
    {line : Text}
    (passes : isRule line) :
    ofTrimmed line = .rule := by
  simp only [isRule, Bool.or_eq_true, beq_iff_eq] at passes
  rcases passes with (rfl | rfl) | rfl
  · rfl
  · rfl
  · rfl

/-- A line that passes the test for items is told to be one, unless it is a rule: the other tests
ask for another first character. -/
theorem ofTrimmed_of_item?
    {line : Text}
    {kind : LineKind}
    (notRule : ¬ isRule line)
    (found : item? line = some kind) :
    ofTrimmed line = kind := by
  have first := head?_of_item? (Option.isSome_of_eq_some found)
  have tested := tested_ofTrimmed line
  generalize ofTrimmed line = told at tested
  cases tested with
  | item isItem =>
      exact Option.some.inj (isItem.symm.trans found)
  | rule passes =>
      exact absurd passes notRule
  | prose _ _ _ _ _ _ _ noItem =>
      rw [noItem] at found
      cases found
  | blank isNil =>
      rw [isNil] at first
      exact absurd first (by decide)
  | quote marked =>
      rw [marked] at first
      exact absurd first (by decide)
  | command shape =>
      rw [shape, List.head?_cons] at first
      exact absurd first (by decide)
  | row isRow =>
      have barred := isSome_rowCells?_iff.mp (Option.isSome_of_eq_some isRow)
      rw [head?_of_isBarred barred] at first
      exact absurd first (by decide)
  | heading isHeading =>
      rw [head?_of_heading? (Option.isSome_of_eq_some isHeading)] at first
      exact absurd first (by decide)
  | fence isFence =>
      rcases head?_of_fence? (Option.isSome_of_eq_some isFence) with isMarker | isMarker
      · rw [isMarker] at first
        exact absurd first (by decide)
      · rw [isMarker] at first
        exact absurd first (by decide)

/-- A line is told to be an item just when it is no rule and passes the test for items. -/
theorem exists_ofTrimmed_eq_item_iff
    {line : Text} :
    (∃ ordered body, ofTrimmed line = .item ordered body) ↔
      ¬ isRule line ∧ (item? line).isSome := by
  constructor
  · rintro ⟨ordered, body, isItem⟩
    have tested := tested_ofTrimmed line
    refine ⟨fun passes => ?_, ?_⟩
    · rw [ofTrimmed_of_isRule passes] at isItem
      cases isItem
    · rw [isItem] at tested
      cases tested with
      | item passes =>
          exact Option.isSome_of_eq_some passes
  · rintro ⟨notRule, passes⟩
    obtain ⟨kind, found⟩ := Option.isSome_iff_exists.mp passes
    obtain ⟨ordered, body, rfl⟩ := exists_of_item? found
    exact ⟨ordered, body, ofTrimmed_of_item? notRule found⟩

end LineKind

end Guidebook
