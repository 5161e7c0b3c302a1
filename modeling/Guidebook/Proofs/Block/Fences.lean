import Guidebook.Proofs.Block.Continuation
import Guidebook.Proofs.Block.Written

namespace Guidebook

/-!
# What stands between fences

The lines between a fence and the line that closes it are code, whatever they would be
on their own, and reading goes on behind the closing line as if nothing were before it.
-/

namespace Text

/-- The words of a text, which blanks stand between. -/
def words (text : Text) : List Text :=
  (text.splitOnP isBlank).filter (!·.isEmpty)

/-- A blank in front of a word is not part of it. -/
theorem firstWord?_cons_of_blank
    {character : Char}
    (blank : isBlank character)
    (rest : Text) :
    firstWord? (character :: rest) = firstWord? rest := by
  have trimmed : trimStart (character :: rest) = trimStart rest :=
    List.dropWhile_cons_of_pos blank
  rw [firstWord?, trimmed]
  rfl

/-- A word goes from the first character that is not blank to the next blank. -/
theorem firstWord?_cons
    {character : Char}
    (solid : ¬ isBlank character)
    (rest : Text) :
    firstWord? (character :: rest) = some (character :: rest.takeWhile (!isBlank ·)) := by
  have trimmed : trimStart (character :: rest) = character :: rest :=
    List.dropWhile_cons_of_neg solid
  rw [firstWord?, trimmed]

/-- The part in front of the first place where a test holds. -/
theorem head?_splitOnP
    (test : α → Bool)
    (values : List α) :
    (values.splitOnP test).head? = some (values.takeWhile (!test ·)) := by
  induction values with
  | nil =>
      rfl
  | cons value rest inductionHypothesis =>
      by_cases holds : test value
      · simp [List.splitOnP_cons_eq_if_modifyHead, holds]
      · simp [List.splitOnP_cons_eq_if_modifyHead, holds, inductionHypothesis]

/-- Reading up to the end of a word finds the first of all words. -/
theorem firstWord?_eq_head?_words
    (text : Text) :
    text.firstWord? = text.words.head? := by
  rw [words, List.head?_filter]
  induction text with
  | nil =>
      rfl
  | cons character rest inductionHypothesis =>
      by_cases blank : isBlank character
      · rw [firstWord?_cons_of_blank blank, inductionHypothesis]
        simp [List.splitOnP_cons_eq_if_modifyHead, blank]
      · obtain ⟨others, isDivided⟩ := List.head?_eq_some_iff.mp (head?_splitOnP isBlank rest)
        rw [firstWord?_cons blank]
        simp [List.splitOnP_cons_eq_if_modifyHead, blank, isDivided]

theorem takeWhile_solid_append_of_blank
    (text : Text)
    {blanks : Text}
    (blank : blanks.isBlankLine) :
    (text ++ blanks).takeWhile (!isBlank ·) = text.takeWhile (!isBlank ·) := by
  induction text with
  | nil =>
      cases blanks with
      | nil =>
          rfl
      | cons first others =>
          simp [isBlankLine_iff.mp blank first List.mem_cons_self]
  | cons character rest inductionHypothesis =>
      simp [List.takeWhile_cons, inductionHypothesis]

/-- Blanks behind a text have no part in its words. -/
theorem firstWord?_append_of_blank
    (text : Text)
    {blanks : Text}
    (blank : blanks.isBlankLine) :
    firstWord? (text ++ blanks) = text.firstWord? := by
  induction text with
  | nil =>
      have trimmed : blanks.trimStart = [] := trimStart_eq_nil_iff.mpr blank
      rw [List.nil_append, firstWord?, trimmed]
      rfl
  | cons character rest inductionHypothesis =>
      by_cases blankHere : isBlank character
      · simpa [firstWord?_cons_of_blank blankHere] using inductionHypothesis
      · simp [firstWord?_cons blankHere, takeWhile_solid_append_of_blank rest blank]

/-- Blanks at the end do not change the first word. -/
theorem firstWord?_trimEnd
    (text : Text) :
    text.trimEnd.firstWord? = text.firstWord? := by
  have divided : text.trimEnd ++ text.rtakeWhile isBlank = text :=
    List.rdropWhile_append_rtakeWhile
  have blank : isBlankLine (text.rtakeWhile isBlank) :=
    isBlankLine_iff.mpr fun _ => List.mem_rtakeWhile_imp
  exact (firstWord?_append_of_blank text.trimEnd blank).symm.trans (congrArg firstWord? divided)

/-! ## Runs of marks -/

/-- A text starts with so many marks when its run of them is as long. -/
theorem le_runLength_iff
    {marker : Char}
    {count : Nat}
    {text : Text} :
    count ≤ text.runLength marker ↔ List.replicate count marker <+: text := by
  induction text generalizing count with
  | nil =>
      cases count with
      | zero => simp
      | succ count => simp [runLength, List.replicate_succ]
  | cons character rest inductionHypothesis =>
      cases count with
      | zero => simp
      | succ count =>
          by_cases isMarker : character = marker
          · simp [runLength, isMarker, List.replicate_succ, inductionHypothesis]
          · simp [runLength, isMarker, List.replicate_succ, Ne.symm isMarker]

/-- A run of marks ends in front of another character. -/
theorem runLength_replicate_append
    {marker : Char}
    (count : Nat)
    {rest : Text}
    (ends : rest.head? ≠ some marker) :
    runLength marker (List.replicate count marker ++ rest) = count := by
  induction count with
  | zero =>
      cases rest with
      | nil => rfl
      | cons character rest =>
          have notMarker : character ≠ marker := by simpa using ends
          simp [runLength, notMarker]
  | succ count inductionHypothesis =>
      simp [List.replicate_succ, runLength, inductionHypothesis]

end Text

/-- The marks that a fence is made of. -/
def IsFenceMark (marker : Char) : Prop :=
  marker = '\x60' ∨ marker = '~'

namespace IsFenceMark

variable
    {marker : Char}

/-- The marks of fences are not blank. -/
theorem not_isBlank
    (isMark : IsFenceMark marker) :
    ¬ isBlank marker := by
  rcases isMark with rfl | rfl
  · decide
  · decide

/-- A run of marks of fences has no blanks around it. -/
theorem phrase_replicate
    (isMark : IsFenceMark marker)
    (count : Nat) :
    Text.Phrase (List.replicate count marker) := by
  have solid : ∀ character ∈ List.replicate count marker, ¬ isBlank character :=
    fun character member => List.eq_of_mem_replicate member ▸ isMark.not_isBlank
  exact ⟨fun isFeed => solid _ isFeed rfl,
    fun first isFirst => solid first (List.mem_of_head? isFirst),
    fun last isLast => solid last (List.mem_of_getLast? isLast)⟩

/-- Three marks or more in front of another character make a fence with what follows. -/
theorem fence?_replicate_append
    (isMark : IsFenceMark marker)
    {count : Nat}
    (three : 3 ≤ count)
    {info : Text}
    (ends : info.head? ≠ some marker) :
    LineKind.fence? (List.replicate count marker ++ info) = some (.fence marker count info) := by
  have length := Text.runLength_replicate_append count ends
  have dropped : (List.replicate count marker ++ info).drop count = info :=
    List.drop_left' List.length_replicate
  obtain ⟨fewer, rfl⟩ := Nat.exists_eq_add_of_le' (Nat.one_le_of_lt three)
  have known : (marker == '\x60' || marker == '~') = true := by
    simpa [IsFenceMark] using isMark
  rw [List.replicate_succ, List.cons_append] at length dropped ⊢
  simp only [LineKind.fence?, length, dropped, known, three, Bool.true_and, decide_true, ↓reduceIte]

/-- Three or more marks open a fence, and what stands behind them describes it. -/
theorem of_fence
    (isMark : IsFenceMark marker)
    {count : Nat}
    (three : 3 ≤ count)
    {info : Text}
    (ends : info.head? ≠ some marker) :
    LineKind.of (List.replicate count marker ++ info) = .fence marker count info.trimEnd := by
  have phrase := isMark.phrase_replicate count
  have nonempty : List.replicate count marker ≠ [] := by
    simp [Nat.ne_zero_of_lt three]
  have endsTrimmed : info.trimEnd.head? ≠ some marker := by
    obtain ⟨blanks, divided⟩ := List.rdropWhile_prefix isBlank info
    intro isFirst
    have isFirstKept : (info.rdropWhile isBlank).head? = some marker := isFirst
    exact ends (by rw [← divided, List.head?_append, isFirstKept]; rfl)
  have isFence := isMark.fence?_replicate_append three endsTrimmed
  rw [LineKind.of, Text.trim_append nonempty phrase.front phrase.back]
  obtain ⟨more, rfl⟩ := Nat.exists_eq_add_of_le' three
  simp only [List.replicate_succ, List.cons_append] at isFence ⊢
  -- What is tried before a fence starts with neither mark.
  rcases isMark with rfl | rfl
  · simp [LineKind.ofTrimmed, LineKind.isRule, rowCells?, LineKind.heading?, Text.runLength, isFence]
  · simp [LineKind.ofTrimmed, LineKind.isRule, rowCells?, LineKind.heading?, Text.runLength, isFence]

end IsFenceMark

/-- Code as it is written: lines between two fences, the first one with a description. -/
structure FencedSource where
  marker : Char
  count : Nat
  info : Text
  code : List Line

namespace FencedSource

/-- The line of marks that stands at either end of the code. -/
def fence (source : FencedSource) : Text :=
  List.replicate source.count source.marker

/-- The lines of the code with its fences. -/
def lines (source : FencedSource) : List Line :=
  (source.fence ++ source.info) :: source.code ++ [source.fence]

/-- The first word of the description in small letters, or else the usual language. -/
def language (source : FencedSource) : String :=
  match source.info.words with
  | [] => "bash"
  | word :: _ => String.ofList word.toSmall

/-- No line of the code closes it, and each is kept as it is when the next one follows. -/
structure WellFormed (source : FencedSource) : Prop where
  isMark : IsFenceMark source.marker
  three : 3 ≤ source.count
  infoOneLine : '\n' ∉ source.info
  infoEnds : source.info.head? ≠ some source.marker
  codeOneLine : ∀ line ∈ source.code, '\n' ∉ line
  codeKept : ∀ line ∈ source.code, line.getLast? ≠ some '\r'
  codeOpen : ∀ line ∈ source.code, ¬ source.fence <+: line.trim

/-- Blanks behind the description of a fence do not change the language. -/
theorem languageOf_trimEnd
    (source : FencedSource) :
    Block.languageOf source.info.trimEnd = source.language := by
  rw [Block.languageOf, Text.firstWord?_trimEnd, Text.firstWord?_eq_head?_words, language]
  cases source.info.words with
  | nil | cons =>
      rfl

namespace WellFormed

variable
    {source : FencedSource}

/-- A fence has no blanks around it. -/
theorem phrase_fence
    (wellFormed : source.WellFormed) :
    Text.Phrase source.fence :=
  wellFormed.isMark.phrase_replicate source.count

theorem fence_ne_nil
    (wellFormed : source.WellFormed) :
    source.fence ≠ [] := by
  simp [fence, Nat.ne_zero_of_lt wellFormed.three]

/-- Code is all that stands in front of the line that closes it. -/
theorem takeFenced
    (wellFormed : source.WellFormed)
    (info : Text)
    (rest : List Line) :
    Block.takeFenced source.marker source.count info (source.code ++ source.fence :: rest) =
      (Block.ofCode (Block.languageOf info) source.code, rest) := by
  have isCode : ∀ line ∈ source.code,
      decide (Text.runLength source.marker line.trim < source.count) := by
    intro line member
    have stays := wellFormed.codeOpen line member
    rw [fence, ← Text.le_runLength_iff] at stays
    simpa using stays
  have closes : ∀ first ∈ (source.fence :: rest).head?,
      ¬ decide (Text.runLength source.marker first.trim < source.count) := by
    rintro first ⟨⟩
    have long : source.count ≤ Text.runLength source.marker source.fence :=
      Text.le_runLength_iff.mpr List.prefix_rfl
    rw [wellFormed.phrase_fence.trim_eq]
    simpa using long
  obtain ⟨taken, left⟩ := takeWhile_append_of_stops isCode closes
  simp only [Block.takeFenced, taken, left, List.drop_one, List.tail_cons]

/-- The line that opens the code is a fence, also without a carriage return at its end. -/
theorem of_withoutReturn
    (wellFormed : source.WellFormed) :
    LineKind.of (Text.withoutReturn (source.fence ++ source.info)) =
      .fence source.marker source.count source.info.trimEnd :=
  (congrArg LineKind.ofTrimmed (Text.trim_withoutReturn _)).trans
    (wellFormed.isMark.of_fence wellFormed.three wellFormed.infoEnds)

/-- The lines that are read: a carriage return in front of a line end belongs to that end. -/
theorem lines_trim
    (wellFormed : source.WellFormed)
    {rest : Text}
    (unindented : ∀ first ∈ rest.head?, ¬ isBlank first) :
    Text.lines (Text.trim (Text.joinLines (source.lines ++ [rest]))) =
      Text.withoutReturn (source.fence ++ source.info) ::
        (source.code ++ source.fence :: Text.lines rest.trim) := by
  have phrase := wellFormed.phrase_fence
  have nonempty := wellFormed.fence_ne_nil
  have starts : ∀ first ∈ (Text.joinLines source.lines).head?, ¬ isBlank first := by
    rw [lines, List.cons_append, Text.head?_joinLines (by simp [nonempty]),
      List.head?_append_of_ne_nil _ nonempty]
    exact phrase.front
  have oneLine : ∀ line ∈ (source.fence ++ source.info) :: source.code, '\n' ∉ line := by
    refine List.forall_mem_cons.mpr ⟨?_, wellFormed.codeOneLine⟩
    exact fun member => (List.mem_append.mp member).elim phrase.oneLine wellFormed.infoOneLine
  have codeKept : source.code.map Text.withoutReturn = source.code :=
    map_eq_self fun line member => if_neg (wellFormed.codeKept line member)
  have divided :
      source.lines ++ [rest] =
        ((source.fence ++ source.info) :: source.code) ++ [source.fence, rest] := by
    simp [lines]
  rw [divided, Text.lines_trim_joinLines starts oneLine (phrase.finished nonempty) unindented,
    List.map_cons, codeKept, List.cons_append]

end WellFormed

end FencedSource

/--
Code between fences is read as it stands there, but for blank lines at its end, and what
comes behind it is read as it is on its own.
-/
theorem Block.read_lines_fenced
    {source : FencedSource}
    (wellFormed : source.WellFormed)
    {rest : Text}
    (unindented : ∀ first ∈ rest.head?, ¬ isBlank first) :
    read (Text.joinLines (source.lines ++ [rest])) =
      .codeBlock source.language
          ((source.code.rdropWhile Text.isBlankLine).map String.ofList) ::
        read rest := by
  rw [read, wellFormed.lines_trim unindented, ofLines_cons]
  simp only [take, wellFormed.of_withoutReturn, wellFormed.takeFenced,
    FencedSource.languageOf_trimEnd]
  rfl

/--
Shorter fences, those of the other mark and what looks like a heading are code, and the
description is read without its carriage return.
-/
theorem Block.read_lines_fenced_heading :
    let source : FencedSource :=
      ⟨'\x60', 3, [' ', 'R', 's', ' ', 'x', '\r'],
        [['#', ' ', 'a'], [' ', '\x60', '\x60'], ['~', '~', '~'], [' ']]⟩
    let rest : Text := ['#', ' ', 'b']
    source.WellFormed ∧ (∀ first ∈ rest.head?, ¬ isBlank first) ∧
      read (Text.joinLines (source.lines ++ [rest])) =
        .codeBlock source.language
            ((source.code.rdropWhile Text.isBlankLine).map String.ofList) ::
          read rest := by
  intro source rest
  have wellFormed : source.WellFormed :=
    ⟨.inl rfl, by decide, by decide, by decide, by decide, by decide, by decide⟩
  have unindented : ∀ first ∈ rest.head?, ¬ isBlank first := by
    rintro first ⟨⟩
    decide
  exact ⟨wellFormed, unindented, read_lines_fenced wellFormed unindented⟩

end Guidebook
