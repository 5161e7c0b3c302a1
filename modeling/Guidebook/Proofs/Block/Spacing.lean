import Guidebook.Proofs.Block.Sections
import Guidebook.Proofs.Text.Indenting
import Guidebook.Proofs.Text.Joining
import Mathlib.Data.List.Forall2

namespace Guidebook

/-!
# Blanks around lines

Two guides whose lines are alike are read alike, where no code is fenced: every block is
put together from the same texts, and takes the same number of lines.  Trimming the whole
guide at first takes away blank lines at its ends and the indent of its first line, which
two such guides lose alike.
-/

namespace Text

/-- Blanks in front are taken off only once. -/
theorem trim_trimStart
    (text : Text) :
    text.trimStart.trim = text.trim := by
  rw [trim, trim, trimStart, trimStart, List.dropWhile_idempotent]

/-- Without the blanks in front a text has no indent. -/
theorem indent_trimStart
    (text : Text) :
    text.trimStart.indent = 0 := by
  rw [indent, List.length_eq_zero_iff, List.takeWhile_eq_nil_iff]
  intro nonempty
  simpa [trimStart] using List.dropWhile_get_zero_not isBlank text nonempty

end Text

namespace Alike

/-- A carriage return at the end of a line makes no difference to what the line is. -/
theorem withoutReturn
    (line : Line) :
    Alike line line.withoutReturn := by
  unfold Text.withoutReturn
  split
  · next isReturn =>
      have divided : line.dropLast ++ ['\r'] = line :=
        List.dropLast_append_getLast? '\r' isReturn
      have alike := of_append_blanks line.dropLast (rfl : Text.isBlankLine ['\r'])
      rwa [divided] at alike
  · exact refl line

theorem trimEnd
    (line : Line) :
    Alike line line.trimEnd := by
  have divided : line.trimEnd ++ line.rtakeWhile isBlank = line :=
    List.rdropWhile_append_rtakeWhile
  have blank : Text.isBlankLine (line.rtakeWhile isBlank) :=
    Text.isBlankLine_iff.mpr fun _ => List.mem_rtakeWhile_imp
  have alike := of_append_blanks line.trimEnd blank
  rwa [divided] at alike

/-- Without the blanks in front only the text of a line counts. -/
theorem trimStart
    {line other : Line}
    (sameText : other.trim = line.trim) :
    Alike line.trimStart other.trimStart where
  sameText := by
    rw [Text.trim_trimStart, Text.trim_trimStart, sameText]
  sameIndent := by
    intro _ _ _
    rw [Text.indent_trimStart, Text.indent_trimStart]

end Alike

/-! ## Lines that are alike are read alike -/

section ForallAlike

variable {lines others : List Line}

/-- A test that alike lines share takes the same values off alike lines and leaves alike lines. -/
theorem takeLeading_alike
    {value? : Line → Option α}
    (sees : SeesAlike value?)
    (alike : List.Forall₂ Alike lines others) :
    (takeLeading value? others).1 = (takeLeading value? lines).1 ∧
      List.Forall₂ Alike (takeLeading value? lines).2 (takeLeading value? others).2 := by
  induction alike with
  | nil =>
      exact ⟨rfl, .nil⟩
  | @cons line other lines others first behind inductionHypothesis =>
      rw [takeLeading, takeLeading, sees line other first]
      split
      · exact ⟨rfl, .cons first behind⟩
      · next value _ =>
          exact ⟨congrArg (List.cons value) inductionHypothesis.1, inductionHypothesis.2⟩

namespace Block

theorem takeParagraph_alike
    (line : Line)
    (alike : List.Forall₂ Alike lines others) :
    (takeParagraph line others).1 = (takeParagraph line lines).1 ∧
      List.Forall₂ Alike (takeParagraph line lines).2 (takeParagraph line others).2 := by
  obtain ⟨sameTexts, behind⟩ := takeLeading_alike seesAlike_prose? alike
  refine ⟨?_, behind⟩
  simp only [takeParagraph, sameTexts]

/-- The rows below a row of dashes make the same table. -/
theorem takeTable?_alike
    (headers : List Text)
    (alike : List.Forall₂ Alike lines others) :
    takeTable? headers lines = none ∧ takeTable? headers others = none ∨
      ∃ table behind otherBehind,
        takeTable? headers lines = some (table, behind) ∧
          takeTable? headers others = some (table, otherBehind) ∧
            List.Forall₂ Alike behind otherBehind := by
  cases alike with
  | nil =>
      exact .inl ⟨rfl, rfl⟩
  | @cons separator otherSeparator lines others first alike =>
      obtain ⟨sameRows, behind⟩ := takeLeading_alike seesAlike_cells? alike
      rw [takeTable?, takeTable?, first.sameText]
      cases Alignment.ofSeparator? separator.trim with
      | none =>
          exact .inl ⟨rfl, rfl⟩
      | some alignments =>
          refine .inr ⟨_, _, _, rfl, ?_, behind⟩
          simp only [Option.map_some, sameRows]

/-- A line that opens no fence begins the same block in front of lines that are alike. -/
theorem take_alike
    {line : Line}
    (noFence : LineKind.fence? line.trim = none)
    (alike : List.Forall₂ Alike lines others) :
    (take line others).1 = (take line lines).1 ∧
      List.Forall₂ Alike (take line lines).2 (take line others).2 := by
  cases kind : LineKind.of line with
  | blank | heading | rule | command =>
      simp only [take, kind, true_and]
      exact alike
  | fence marker length info =>
      have isFence := LineKind.tested_ofTrimmed line.trim
      rw [LineKind.of] at kind
      rw [kind] at isFence
      cases isFence with
      | fence isFence =>
          simp [noFence] at isFence
  | row headers =>
      simp only [take, kind]
      rcases takeTable?_alike headers alike with ⟨noTable, noOther⟩ | hasTable
      · obtain ⟨sameParagraph, behind⟩ := takeParagraph_alike line alike
        simp only [noTable, noOther, sameParagraph, true_and]
        exact behind
      · obtain ⟨table, _, _, isTable, isOther, behind⟩ := hasTable
        simp only [isTable, isOther, true_and]
        exact behind
  | quote content =>
      obtain ⟨sameContents, behind⟩ := takeLeading_alike seesAlike_quoted? alike
      simp only [take, kind, sameContents, true_and]
      exact behind
  | item ordered body =>
      obtain ⟨sameEntries, behind⟩ := takeLeading_alike (seesAlike_entryOf? line.indent) alike
      simp only [take, kind, sameEntries, true_and]
      exact behind
  | prose =>
      obtain ⟨sameParagraph, behind⟩ := takeParagraph_alike line alike
      simp only [take, kind, sameParagraph, true_and]
      exact behind

/-- No line opens fenced code. -/
def OpensNoFence (lines : List Line) : Prop :=
  ∀ line ∈ lines, LineKind.fence? line.trim = none

/-- Lines that are alike to lines without fences have no fences. -/
theorem OpensNoFence.alike
    (noFence : OpensNoFence lines)
    (alike : List.Forall₂ Alike lines others) :
    OpensNoFence others := by
  induction alike with
  | nil =>
      exact noFence
  | cons first _ inductionHypothesis =>
      obtain ⟨noFenceFirst, noFenceBehind⟩ := List.forall_mem_cons.mp noFence
      refine List.forall_mem_cons.mpr ⟨?_, inductionHypothesis noFenceBehind⟩
      rw [first.sameText]
      exact noFenceFirst

/-- Lines that are alike make the same blocks, where no code is fenced. -/
theorem ofLines_alike
    (noFence : OpensNoFence lines)
    (alike : List.Forall₂ Alike lines others) :
    ofLines others = ofLines lines := by
  fun_induction ofLines lines generalizing others with
  | case1 =>
      cases alike
      exact ofLines.eq_1
  | case2 line rest block? behind taken inductionHypothesis =>
      cases alike with
      | @cons _ other _ othersBehind first alike =>
          obtain ⟨noFenceFirst, noFenceBehind⟩ := List.forall_mem_cons.mp noFence
          obtain ⟨sameBlock, alikeBehind⟩ := take_alike noFenceFirst alike
          rw [taken] at sameBlock alikeBehind
          have isSuffix : (take line rest).2 <:+ rest := by
            rw [take_snd]
            exact behind_suffix line rest
          rw [taken] at isSuffix
          have noFenceLeft : OpensNoFence behind :=
            fun line member => noFenceBehind line (isSuffix.subset member)
          have sameTake : take other othersBehind = take line othersBehind :=
            seesAlike_take othersBehind line other first
          rw [ofLines_cons, sameTake, sameBlock, inductionHypothesis noFenceLeft alikeBehind]

end Block

end ForallAlike

/-! ## Trimming lines that stand together -/

namespace Text

/-- Some lines without the blank ones at the top and the blanks in front of the first other one. -/
def atMargin (lines : List Line) : List Line :=
  (lines.dropWhile isBlankLine).modifyHead trimStart

theorem atMargin_cons_of_blank
    {line : Line}
    (blank : line.isBlankLine)
    (others : List Line) :
    atMargin (line :: others) = atMargin others := by
  rw [atMargin, atMargin, List.dropWhile_cons_of_pos blank]

/-- The first other line loses the blanks in front of it. -/
theorem atMargin_cons_of_not_blank
    {line : Line}
    (notBlank : ¬ line.isBlankLine)
    (others : List Line) :
    atMargin (line :: others) = line.trimStart :: others := by
  rw [atMargin, List.dropWhile_cons_of_neg notBlank, List.modifyHead_cons]

/-- Nothing but blanks is gone from a line. -/
theorem exists_suffix_of_mem_atMargin
    {lines : List Line}
    {line : Line}
    (member : line ∈ atMargin lines) :
    ∃ whole ∈ lines, line <:+ whole ∧ whole.trim = line.trim := by
  induction lines with
  | nil =>
      cases member
  | cons first others inductionHypothesis =>
      by_cases blank : first.isBlankLine
      · rw [atMargin_cons_of_blank blank] at member
        obtain ⟨whole, isOneOf, holds⟩ := inductionHypothesis member
        exact ⟨whole, List.mem_cons_of_mem first isOneOf, holds⟩
      · rw [atMargin_cons_of_not_blank blank] at member
        rcases List.mem_cons.mp member with rfl | isLater
        · exact ⟨first, List.mem_cons_self, List.dropWhile_suffix isBlank,
            first.trim_trimStart.symm⟩
        · exact ⟨line, List.mem_cons_of_mem first isLater, List.suffix_rfl, rfl⟩

/-- To take off the blanks in front of a text is to take them off its lines. -/
theorem trimStart_joinLines
    (lines : List Line) :
    (joinLines lines).trimStart = joinLines (atMargin lines) := by
  induction lines with
  | nil =>
      rfl
  | cons line others inductionHypothesis =>
      by_cases blank : line.isBlankLine
      · rw [atMargin_cons_of_blank blank]
        cases others with
        | nil =>
            simpa [joinLines, atMargin] using trimStart_eq_nil_iff.mpr blank
        | cons next others =>
            have leadBlank : isBlankLine (line ++ ['\n']) := by
              rw [isBlankLine_append, blank]
              rfl
            rw [joinLines_cons line (by simp), List.append_cons,
              trimStart_append_of_blank leadBlank, inductionHypothesis]
      · rw [atMargin_cons_of_not_blank blank]
        cases others with
        | nil =>
            simp [joinLines]
        | cons next others =>
            rw [joinLines_cons line (by simp), joinLines_cons line.trimStart (by simp),
              trimStart_append blank]

/-- A blank line at the end is taken off with the other blanks there. -/
theorem trimEnd_joinLines_concat_of_blank
    (front : List Line)
    {last : Line}
    (blank : last.isBlankLine) :
    (joinLines (front ++ [last])).trimEnd = (joinLines front).trimEnd := by
  cases front with
  | nil =>
      have nothing : last.trimEnd = trimEnd [] := trimEnd_eq_nil_iff.mpr blank
      simpa [joinLines] using nothing
  | cons line front =>
      have tailBlank : isBlankLine ('\n' :: last) := blank
      rw [joinLines_concat (by simp), trimEnd_append_of_blank _ tailBlank]

/-- The blanks at the end of a text are those of its last line that is not blank. -/
theorem trimEnd_joinLines_concat
    (front : List Line)
    {last : Line}
    (notBlank : ¬ last.isBlankLine) :
    (joinLines (front ++ [last])).trimEnd = joinLines (front ++ [last.trimEnd]) := by
  cases front with
  | nil =>
      simp [joinLines]
  | cons line front =>
      rw [joinLines_concat (by simp), joinLines_concat (by simp), List.append_cons,
        trimEnd_append _ notBlank, ← List.append_cons]

/-- What is read of lines is like the lines, without the blank ones at the bottom. -/
theorem alike_lines_trimEnd_joinLines
    {lines : List Line}
    (oneLine : ∀ line ∈ lines, '\n' ∉ line) :
    List.Forall₂ Alike (lines.rdropWhile isBlankLine) (joinLines lines).trimEnd.lines := by
  induction lines using List.reverseRecOn with
  | nil =>
      exact .nil
  | append_singleton front last inductionHypothesis =>
      obtain ⟨oneLineFront, oneLineLast⟩ := List.forall_mem_append.mp oneLine
      by_cases blank : last.isBlankLine
      · rw [List.rdropWhile_concat_pos _ _ _ blank, trimEnd_joinLines_concat_of_blank front blank]
        exact inductionHypothesis oneLineFront
      · have nonempty : last.trimEnd ≠ [] :=
          fun isNil => blank (trimEnd_eq_nil_iff.mp isNil)
        have isPrefix : last.trimEnd <+: last :=
          List.rdropWhile_prefix isBlank last
        have lastKept : last.trimEnd.lines = [last.trimEnd] :=
          lines_eq_singleton nonempty
            fun member => oneLineLast last (by simp) (isPrefix.subset member)
        rw [List.rdropWhile_concat_neg _ _ _ blank, trimEnd_joinLines_concat front blank,
          lines_joinLines_concat oneLineFront, lastKept]
        apply List.rel_append
        · rw [List.forall₂_map_right_iff, List.forall₂_same]
          exact fun line _ => .withoutReturn line
        · exact .cons (.trimEnd last) .nil

/-- The lines between the blank ones at the top and at the bottom, the first one unindented. -/
def trimLines (lines : List Line) : List Line :=
  (atMargin lines).rdropWhile isBlankLine

/-- Lines without fences have none when the blanks around them are taken off. -/
theorem opensNoFence_trimLines
    {lines : List Line}
    (noFence : Block.OpensNoFence lines) :
    Block.OpensNoFence (trimLines lines) := by
  intro line member
  have isPrefix : trimLines lines <+: atMargin lines :=
    List.rdropWhile_prefix isBlankLine _
  obtain ⟨whole, isOneOf, -, sameText⟩ :=
    exists_suffix_of_mem_atMargin (isPrefix.subset member)
  rw [← sameText]
  exact noFence whole isOneOf

section ForallAlike

variable {lines others : List Line}

/-- Alike lines have the same number of blank ones at the top. -/
theorem dropWhile_isBlankLine_alike
    (alike : List.Forall₂ Alike lines others) :
    List.Forall₂ Alike (lines.dropWhile isBlankLine) (others.dropWhile isBlankLine) := by
  induction alike with
  | nil =>
      exact .nil
  | @cons line other lines others first alike inductionHypothesis =>
      rw [List.dropWhile_cons, List.dropWhile_cons, first.sameBlank]
      split
      · exact inductionHypothesis
      · exact .cons first alike

/-- Alike lines stay alike when the first ones lose the blanks in front. -/
theorem modifyHead_trimStart_alike
    (alike : List.Forall₂ Alike lines others) :
    List.Forall₂ Alike (lines.modifyHead trimStart) (others.modifyHead trimStart) := by
  cases alike with
  | nil =>
      exact .nil
  | cons first alike =>
      exact .cons (.trimStart first.sameText) alike

/-- Alike lines stay alike when the blanks around them are taken off. -/
theorem trimLines_alike
    (alike : List.Forall₂ Alike lines others) :
    List.Forall₂ Alike (trimLines lines) (trimLines others) := by
  have atMarginAlike : List.Forall₂ Alike (atMargin lines) (atMargin others) :=
    modifyHead_trimStart_alike (dropWhile_isBlankLine_alike alike)
  -- The blank lines at the bottom are those at the top of the lines turned around.
  apply List.forall₂_reverse_iff.mpr
  apply dropWhile_isBlankLine_alike
  exact List.forall₂_reverse_iff.mpr atMarginAlike

end ForallAlike

/-- The lines that are read of a text are like those that stand between its line feeds. -/
theorem alike_lines_trim
    (text : Text) :
    List.Forall₂ Alike (trimLines (text.splitOn '\n')) text.trim.lines := by
  have joined : joinLines (text.splitOn '\n') = text :=
    List.intercalate_splitOn '\n'
  have oneLine : ∀ line ∈ atMargin (text.splitOn '\n'), '\n' ∉ line := by
    intro line member isFeed
    obtain ⟨whole, isOneOf, isSuffix, -⟩ := exists_suffix_of_mem_atMargin member
    exact newline_not_mem_of_mem_splitOn isOneOf (isSuffix.subset isFeed)
  have alike := alike_lines_trimEnd_joinLines oneLine
  rwa [← trimStart_joinLines, joined] at alike

end Text

/-! ## Other blanks around the lines of a guide -/

/-- A line with other blanks around it, but for those in front of an item. -/
inductive Respaced : Line → Line → Prop where
  | around
      (text : Text)
      {front otherFront back otherBack : Text} :
      front.isBlankLine →
      otherFront.isBlankLine →
      back.isBlankLine →
      otherBack.isBlankLine →
      ((LineKind.item? text.trim).isSome → otherFront = front) →
      Respaced (front ++ text ++ back) (otherFront ++ text ++ otherBack)

/-- A line with other blanks around it is alike, as an item keeps those in front. -/
theorem Respaced.alike
    {line other : Line}
    (respaced : Respaced line other) :
    Alike line other := by
  obtain @⟨text, front, otherFront, back, otherBack, frontBlank, otherFrontBlank, backBlank,
    otherBackBlank, sameFront⟩ := respaced
  have lineText : (front ++ text ++ back).trim = text.trim := by
    rw [Text.trim_append_of_blank _ backBlank, Text.trim_blank_append frontBlank]
  have otherText : (otherFront ++ text ++ otherBack).trim = text.trim := by
    rw [Text.trim_append_of_blank _ otherBackBlank, Text.trim_blank_append otherFrontBlank]
  refine ⟨otherText.trans lineText.symm, ?_⟩
  intro ordered body isItem
  have tested := LineKind.tested_ofTrimmed (front ++ text ++ back).trim
  rw [LineKind.of] at isItem
  rw [isItem, lineText] at tested
  cases tested with
  | item passes =>
      have solid : ¬ text.isBlankLine := by
        intro blank
        rw [Text.trim_eq_nil_iff.mpr blank] at passes
        cases passes
      have solidBehind : ¬ (front ++ text).isBlankLine := by
        simp [solid]
      rw [sameFront (by rw [passes]; rfl), Text.indent_append solidBehind,
        Text.indent_append solidBehind]

namespace Block

/-- Where no line opens fenced code, the blanks around lines say no more than what indents items. -/
theorem read_eq_of_respaced
    {text other : Text}
    (noFence : OpensNoFence (text.splitOn '\n'))
    (respaced : List.Forall₂ Respaced (text.splitOn '\n') (other.splitOn '\n')) :
    read other = read text := by
  have alike := respaced.imp fun _ _ => Respaced.alike
  calc
    read other
        = ofLines (Text.trimLines (other.splitOn '\n')) :=
      ofLines_alike (Text.opensNoFence_trimLines (noFence.alike alike))
        (Text.alike_lines_trim other)
    _ = ofLines (Text.trimLines (text.splitOn '\n')) :=
      ofLines_alike (Text.opensNoFence_trimLines noFence) (Text.trimLines_alike alike)
    _ = read text :=
      (ofLines_alike (Text.opensNoFence_trimLines noFence) (Text.alike_lines_trim text)).symm

/-- Blanks around prose and behind an indented item, which keeps its indent. -/
theorem read_eq_of_respaced_item :
    let text : Text := ['a', '\n', ' ', '-', ' ', 'b', '\r', '\n', ' ', 'c']
    let other : Text := ['\t', 'a', '\n', ' ', '-', ' ', 'b', '\n', 'c', ' ']
    OpensNoFence (text.splitOn '\n') ∧
      List.Forall₂ Respaced (text.splitOn '\n') (other.splitOn '\n') ∧
      read other = read text := by
  intro text other
  have noFence : OpensNoFence (text.splitOn '\n') := by
    unfold OpensNoFence
    decide
  have respaced : List.Forall₂ Respaced (text.splitOn '\n') (other.splitOn '\n') := by
    refine .cons ?prose (.cons ?item (.cons ?last .nil))
    case prose =>
      exact @Respaced.around ['a'] [] ['\t'] [] [] rfl rfl rfl rfl (by decide)
    case item =>
      exact @Respaced.around ['-', ' ', 'b'] [' '] [' '] ['\r'] [] rfl rfl rfl rfl fun _ => rfl
    case last =>
      exact @Respaced.around ['c'] [' '] [] [] [' '] rfl rfl rfl rfl (by decide)
  exact ⟨noFence, respaced, read_eq_of_respaced noFence respaced⟩

end Block

end Guidebook
