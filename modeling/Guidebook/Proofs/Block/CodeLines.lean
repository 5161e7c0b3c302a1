import Guidebook.Proofs.Block.LineKind
import Guidebook.Proofs.Block.Sections
import Guidebook.Proofs.Text.Joining

namespace Guidebook

/-!
# The lines of a block of code

The lines of a block of code are lines of the guide, or what stands behind a dollar
sign on one.  So they have no line end in them, and because blank lines are dropped at
the end, nothing is lost when they are put together to one text and divided again.
-/

namespace Block

/-- Code that has no line end in its lines, and whose last line is not blank. -/
structure Listed (lines : List Line) : Prop where
  oneLine : ∀ line ∈ lines, '\n' ∉ line
  noReturn : ∀ line ∈ lines, '\r' ∉ line
  lastSolid : ∀ last ∈ lines.getLast?, ¬ last.isBlankLine

/-- Nothing of such code is lost when its lines are put together and divided again. -/
theorem Listed.lines_joinLines
    {lines : List Line}
    (listed : Listed lines) :
    (Text.joinLines lines).lines = lines := by
  refine Text.lines_joinLines_of_last listed.oneLine ?_ ?_
  · exact fun line member => Text.withoutReturn_eq_self (listed.noReturn line member)
  · rintro last isLast rfl
    exact listed.lastSolid [] isLast rfl

/-- Without the blank lines at its end, code of lines without line ends is such code. -/
theorem listed_of_ofCode
    {language : String}
    {code : List Line}
    {lines : List String}
    (isCode : ofCode language code = .codeBlock language lines)
    (noEnd : ∀ line ∈ code, '\n' ∉ line ∧ '\r' ∉ line) :
    Listed (lines.map String.toList) := by
  rw [ofCode, codeBlock.injEq] at isCode
  obtain ⟨-, rfl⟩ := isCode
  have isKept :
      ((code.reverse.dropWhile Text.isBlankLine).reverse.map String.ofList).map String.toList =
        (code.reverse.dropWhile Text.isBlankLine).reverse := by
    rw [List.map_map]
    exact map_eq_self fun line _ => String.toList_ofList
  rw [isKept]
  have isLine : ∀ line ∈ (code.reverse.dropWhile Text.isBlankLine).reverse, line ∈ code := by
    intro line member
    exact List.mem_reverse.mp ((List.dropWhile_sublist _).subset (List.mem_reverse.mp member))
  refine ⟨fun line member => (noEnd line (isLine line member)).1,
    fun line member => (noEnd line (isLine line member)).2, ?_⟩
  intro last isLast
  rw [List.getLast?_reverse] at isLast
  have firstSolid := List.head?_dropWhile_not Text.isBlankLine code.reverse
  rw [isLast] at firstSolid
  exact Bool.eq_false_iff.mp firstSolid

/-- The code that a line begins is made of parts of that line or of the lines that follow. -/
theorem exists_code_of_take
    {line : Line}
    {rest : List Line}
    {language : String}
    {lines : List String}
    (begins : (take line rest).1 = some (.codeBlock language lines)) :
    ∃ code : List Line,
      ofCode language code = .codeBlock language lines ∧
        ∀ part ∈ code, ∃ source ∈ line :: rest, part <:+: source := by
  have fits := LineKind.fits_of line
  rw [take] at begins
  cases kind : LineKind.of line with
  | blank | heading level content | rule | item ordered body | prose =>
      rw [kind] at begins
      cases begins
  | command text =>
      rw [kind] at begins fits
      cases begins
      refine ⟨[text], rfl, List.forall_mem_singleton.mpr ⟨line, List.mem_cons_self, ?_⟩⟩
      exact fits.isInfix.trans (Text.trim_infix line)
  | fence marker length info =>
      rw [kind] at begins
      cases begins
      refine ⟨_, rfl, fun part member => ⟨part, ?_, List.infix_refl part⟩⟩
      exact List.mem_cons_of_mem line ((List.takeWhile_sublist _).subset member)
  | row headers =>
      rw [kind] at begins
      cases table : takeTable? headers rest with
      | none =>
          simp only [table] at begins
          cases begins
      | some taken =>
          obtain ⟨alignments, rows, isTable⟩ := exists_table_of_takeTable? table
          simp only [table, isTable] at begins
          cases begins
  | quote content =>
      rw [kind] at begins
      simp only [ofQuote, Option.some.injEq] at begins
      split at begins
      · cases begins
      · cases begins

theorem listed_of_mem_read
    {text : Text}
    (noReturn : '\r' ∉ text)
    {language : String}
    {lines : List String}
    (member : .codeBlock language lines ∈ read text) :
    Listed (lines.map String.toList) := by
  obtain ⟨line, rest, begins, areLines⟩ := exists_take_of_mem_read member
  obtain ⟨code, isCode, isInside⟩ := exists_code_of_take begins
  refine listed_of_ofCode isCode ?_
  intro inner isInner
  obtain ⟨source, isSource, isInfix⟩ := isInside inner isInner
  have isLineOfText := areLines source isSource
  constructor
  · exact fun isFeed => Text.newline_not_mem_of_mem_lines isLineOfText (isInfix.subset isFeed)
  · intro isReturn
    have inTrimmed := Text.mem_of_mem_lines isLineOfText (isInfix.subset isReturn)
    exact noReturn ((Text.trim_infix text).subset inTrimmed)

end Block

end Guidebook
