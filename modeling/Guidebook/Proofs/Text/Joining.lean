import Guidebook.Proofs.Text.Lines

namespace Guidebook

/-!
# Texts put together from lines

Lines are put together with a line feed between any two of them, and the text that
they make is read as these lines again.  Only a carriage return at the end of a line
is lost, because it counts as part of the line end.
-/

/-- A change that leaves each of some values alone leaves all of them alone. -/
theorem map_eq_self
    {change : α → α}
    {values : List α}
    (kept : ∀ value ∈ values, change value = value) :
    values.map change = values :=
  (List.map_congr_left kept).trans (List.map_id values)

/-- A test divides a list right where the part that passes it ends. -/
theorem takeWhile_append_of_stops
    {test : α → Bool}
    {front behind : List α}
    (passes : ∀ value ∈ front, test value)
    (stops : ∀ first ∈ behind.head?, ¬ test first) :
    (front ++ behind).takeWhile test = front ∧ (front ++ behind).dropWhile test = behind := by
  rw [List.takeWhile_append_of_pos passes, List.dropWhile_append_of_pos passes]
  cases behind with
  | nil =>
      simp
  | cons first rest =>
      have stop := stops first rfl
      simp [List.takeWhile_cons_of_neg stop, List.dropWhile_cons_of_neg stop]

namespace Text

/-- Lines as one text, with a line feed between any two. -/
def joinLines (lines : List Line) : Text :=
  ['\n'].intercalate lines

/-- What is read of a line that has a line feed behind it. -/
def withoutReturn (line : Line) : Line :=
  if line.getLast? = some '\r' then line.dropLast else line

/-- A stretch of a line, without a line feed and without a blank at either end. -/
structure Phrase (text : Text) : Prop where
  oneLine : '\n' ∉ text
  front : ∀ first ∈ text.head?, ¬ isBlank first
  back : ∀ last ∈ text.getLast?, ¬ isBlank last

/-- Whether a text is a phrase can be told from its characters. -/
theorem phrase_iff
    {text : Text} :
    Phrase text ↔
      '\n' ∉ text ∧ text.head?.all (!isBlank ·) ∧ text.getLast?.all (!isBlank ·) := by
  have unblank (outermost? : Option Char) :
      outermost?.all (!isBlank ·) ↔ ∀ outermost ∈ outermost?, ¬ isBlank outermost := by
    simp [Option.all_eq_true]
  rw [unblank, unblank]
  exact ⟨fun phrase => ⟨phrase.oneLine, phrase.front, phrase.back⟩,
    fun ⟨oneLine, front, back⟩ => ⟨oneLine, front, back⟩⟩

instance (text : Text) : Decidable (Phrase text) :=
  decidable_of_iff' _ phrase_iff

/-- A line that something other than a blank stands at the end of. -/
structure Finished (line : Line) : Prop where
  oneLine : '\n' ∉ line
  back : ∃ last ∈ line.getLast?, ¬ isBlank last

/-- A text that starts with no blank has none to take off in front. -/
theorem trimStart_eq_self
    {text : Text}
    (front : ∀ first ∈ text.head?, ¬ isBlank first) :
    text.trimStart = text := by
  cases text with
  | nil =>
      rfl
  | cons first rest =>
      exact List.dropWhile_cons_of_neg (front first rfl)

theorem trimEnd_eq_self
    {text : Text}
    (back : ∀ last ∈ text.getLast?, ¬ isBlank last) :
    text.trimEnd = text := by
  rcases List.eq_nil_or_concat' text with rfl | ⟨before, last, rfl⟩
  · rfl
  · exact List.rdropWhile_concat_neg isBlank before last (back last (by simp))

/-- A text with no blank at either end stays as it is. -/
theorem trim_eq_self
    {text : Text}
    (front : ∀ first ∈ text.head?, ¬ isBlank first)
    (back : ∀ last ∈ text.getLast?, ¬ isBlank last) :
    text.trim = text := by
  rw [trim, trimStart_eq_self front, trimEnd_eq_self back]

/-- Trimming takes nothing off a text that has no blank at either end, and all off blanks behind. -/
theorem trim_append
    {text : Text}
    (nonempty : text ≠ [])
    (front : ∀ first ∈ text.head?, ¬ isBlank first)
    (back : ∀ last ∈ text.getLast?, ¬ isBlank last)
    (behind : Text) :
    trim (text ++ behind) = text ++ behind.trimEnd := by
  have startKept : trimStart (text ++ behind) = text ++ behind := by
    apply trimStart_eq_self
    rw [List.head?_append_of_ne_nil _ nonempty]
    exact front
  rw [trim, startKept]
  by_cases blank : behind.isBlankLine
  · rw [trimEnd_append_of_blank _ blank, trimEnd_eq_nil_iff.mpr blank, List.append_nil]
    exact trimEnd_eq_self back
  · exact trimEnd_append text blank

namespace Phrase

theorem trim_eq
    {text : Text}
    (phrase : Phrase text) :
    text.trim = text :=
  trim_eq_self phrase.front phrase.back

/-- A phrase that is not empty is a line with something at its end. -/
theorem finished
    {text : Text}
    (phrase : Phrase text)
    (nonempty : text ≠ []) :
    Finished text where
  oneLine := phrase.oneLine
  back := by
    have isLast := List.getLast?_eq_some_getLast nonempty
    exact ⟨_, isLast, phrase.back _ isLast⟩

end Phrase

namespace Finished

/-- Something in front of a finished line does not change its end. -/
theorem prepend
    {line : Line}
    (finished : Finished line)
    {front : Text}
    (oneLine : '\n' ∉ front) :
    Finished (front ++ line) where
  oneLine := by
    simp [oneLine, finished.oneLine]
  back := by
    obtain ⟨last, isLast, solid⟩ := finished.back
    exact ⟨last, by simp [List.getLast?_append, Option.mem_def.mp isLast], solid⟩

theorem not_isBlank_of_mem_getLast?
    {line : Line}
    (finished : Finished line)
    {last : Char}
    (isLast : last ∈ line.getLast?) :
    ¬ isBlank last := by
  obtain ⟨other, isOther, solid⟩ := finished.back
  exact Option.mem_unique isOther isLast ▸ solid

/-- A finished line is a phrase when it starts with something other than a blank. -/
theorem phrase
    {line : Line}
    (finished : Finished line)
    (front : ∀ first ∈ line.head?, ¬ isBlank first) :
    Phrase line where
  oneLine := finished.oneLine
  front := front
  back _ := finished.not_isBlank_of_mem_getLast?

/-- A finished line has no carriage return at its end. -/
theorem withoutReturn_eq
    {line : Line}
    (finished : Finished line) :
    line.withoutReturn = line :=
  if_neg fun isReturn => finished.not_isBlank_of_mem_getLast? isReturn rfl

theorem ne_nil
    {line : Line}
    (finished : Finished line) :
    line ≠ [] := by
  rintro rfl
  obtain ⟨last, isLast, -⟩ := finished.back
  cases isLast

theorem not_isBlankLine
    {line : Line}
    (finished : Finished line) :
    ¬ line.isBlankLine := by
  obtain ⟨last, isLast, solid⟩ := finished.back
  exact fun blank => solid (isBlankLine_iff.mp blank last (List.mem_of_getLast? isLast))

end Finished

theorem withoutReturn_eq_self
    {line : Line}
    (noReturn : '\r' ∉ line) :
    line.withoutReturn = line :=
  if_neg fun isReturn => noReturn (List.mem_of_getLast? isReturn)

/-- A carriage return is a blank, so that a trimmed line does not show whether it is lost. -/
theorem trim_withoutReturn
    (line : Line) :
    line.withoutReturn.trim = line.trim := by
  unfold withoutReturn
  split
  · next isReturn =>
      have divided : line.dropLast ++ ['\r'] = line :=
        List.dropLast_append_getLast? '\r' isReturn
      exact (trim_append_of_blank line.dropLast rfl).symm.trans (congrArg trim divided)
  · rfl

/-- A character in front does not change what is taken off at the end. -/
theorem withoutReturn_cons
    {character : Char}
    {line : Line}
    (noReturn : character = '\r' → line ≠ []) :
    withoutReturn (character :: line) = character :: withoutReturn line := by
  cases line with
  | nil =>
      have notReturn : character ≠ '\r' := fun isReturn => noReturn isReturn rfl
      simp [withoutReturn, notReturn]
  | cons next rest =>
      by_cases isReturn : (next :: rest).getLast? = some '\r'
      · simp [withoutReturn, isReturn]
      · simp [withoutReturn, isReturn]

/-! ## Reading the lines back -/

/-- The first line of a text is what stands in front of its first line feed. -/
theorem lines_append_newline
    {line : Line}
    (oneLine : '\n' ∉ line)
    (rest : Text) :
    lines (line ++ '\n' :: rest) = line.withoutReturn :: rest.lines := by
  induction line with
  | nil =>
      rfl
  | cons character line inductionHypothesis =>
      obtain ⟨notFeed, oneLineBehind⟩ := List.ne_and_not_mem_of_not_mem_cons oneLine
      -- Only a return right in front of the line feed is lost with it.
      by_cases endsHere : character = '\r' ∧ line = []
      · obtain ⟨rfl, rfl⟩ := endsHere
        rfl
      · have noReturn : character = '\r' → line ≠ [] :=
          fun isReturn isNil => endsHere ⟨isReturn, isNil⟩
        have noFeedNext : character = '\r' → (line ++ '\n' :: rest).head? ≠ some '\n' := by
          intro isReturn isFeed
          rw [List.head?_append_of_ne_nil _ (noReturn isReturn)] at isFeed
          exact oneLineBehind (List.mem_of_head? isFeed)
        calc
          lines (character :: line ++ '\n' :: rest)
              = consFirst character (lines (line ++ '\n' :: rest)) :=
            lines_cons notFeed.symm noFeedNext
          _ = consFirst character (withoutReturn line :: rest.lines) :=
            congrArg (consFirst character) (inductionHypothesis oneLineBehind)
          _ = withoutReturn (character :: line) :: rest.lines := by
            rw [withoutReturn_cons noReturn]
            rfl

/-- Nothing is taken off a line that ends with the text. -/
theorem lines_eq_singleton
    {line : Line}
    (nonempty : line ≠ [])
    (oneLine : '\n' ∉ line) :
    line.lines = [line] := by
  induction line with
  | nil =>
      exact (nonempty rfl).elim
  | cons character line inductionHypothesis =>
      obtain ⟨notFeed, oneLineBehind⟩ := List.ne_and_not_mem_of_not_mem_cons oneLine
      have noFeedNext : character = '\r' → line.head? ≠ some '\n' :=
        fun _ isFeed => oneLineBehind (List.mem_of_head? isFeed)
      rw [lines_cons notFeed.symm noFeedNext]
      cases line with
      | nil =>
          rfl
      | cons next rest =>
          rw [inductionHypothesis (by simp) oneLineBehind]
          rfl

/-- Lines put together with a text behind them, and the first of them on its own. -/
theorem joinLines_cons
    (line : Line)
    {others : List Line}
    (nonempty : others ≠ []) :
    joinLines (line :: others) = line ++ '\n' :: joinLines others := by
  simp [joinLines, List.intercalate_cons_of_ne_nil nonempty]

/-- Joined lines end as the last one does. -/
theorem getLast?_joinLines_concat
    (front : List Line)
    {last : Line}
    (nonempty : last ≠ []) :
    (joinLines (front ++ [last])).getLast? = last.getLast? := by
  induction front with
  | nil =>
      simp [joinLines]
  | cons line front inductionHypothesis =>
      obtain ⟨final, isLast⟩ := List.getLast?_isSome.mpr nonempty |> Option.isSome_iff_exists.mp
      rw [List.cons_append, joinLines_cons line (by simp), List.getLast?_append]
      simp [List.getLast?_cons, inductionHypothesis, isLast]

/-- Joined lines start as the first one does. -/
theorem head?_joinLines
    {first : Line}
    (nonempty : first ≠ [])
    (others : List Line) :
    (joinLines (first :: others)).head? = first.head? := by
  cases first with
  | nil =>
      exact (nonempty rfl).elim
  | cons character line =>
      rw [joinLines, List.intercalate_cons_cons_left, List.head?_cons, List.head?_cons]

/-- A line behind others comes after a line feed. -/
theorem joinLines_concat
    {front : List Line}
    (nonempty : front ≠ [])
    (last : Line) :
    joinLines (front ++ [last]) = joinLines front ++ '\n' :: last := by
  induction front with
  | nil =>
      exact (nonempty rfl).elim
  | cons line front inductionHypothesis =>
      cases front with
      | nil =>
          simp [joinLines]
      | cons next front =>
          rw [List.cons_append, joinLines_cons line (by simp), inductionHypothesis (by simp),
            joinLines_cons line (by simp), List.append_assoc, List.cons_append]

/-- A text behind some lines is read as its own lines. -/
theorem lines_joinLines_concat
    {front : List Line}
    (oneLine : ∀ line ∈ front, '\n' ∉ line)
    (rest : Text) :
    lines (joinLines (front ++ [rest])) = front.map withoutReturn ++ rest.lines := by
  induction front with
  | nil =>
      simp [joinLines]
  | cons line front inductionHypothesis =>
      obtain ⟨oneLineFirst, oneLineBehind⟩ := List.forall_mem_cons.mp oneLine
      rw [List.cons_append, joinLines_cons line (by simp), lines_append_newline oneLineFirst,
        inductionHypothesis oneLineBehind]
      rfl

/-- There are no blanks to be trimmed around finished lines when the first one starts a phrase. -/
theorem trim_joinLines
    {first : Line}
    {others : List Line}
    (front : ∀ character ∈ first.head?, ¬ isBlank character)
    (finished : ∀ line ∈ first :: others, Finished line) :
    (joinLines (first :: others)).trim = joinLines (first :: others) := by
  apply trim_eq_self
  · rw [head?_joinLines (finished first List.mem_cons_self).ne_nil]
    exact front
  · obtain ⟨before, last, shape⟩ :=
      (List.eq_nil_or_concat' (first :: others)).resolve_left (List.cons_ne_nil _ _)
    have lastFinished : Finished last := finished last (by simp [shape])
    rw [shape, getLast?_joinLines_concat before lastFinished.ne_nil]
    exact fun _ => lastFinished.not_isBlank_of_mem_getLast?

/-- Lines without a carriage return at the end are read back, unless the last one is empty. -/
theorem lines_joinLines_of_last
    {lines : List Line}
    (oneLine : ∀ line ∈ lines, '\n' ∉ line)
    (kept : ∀ line ∈ lines, line.withoutReturn = line)
    (lastNonempty : ∀ last ∈ lines.getLast?, last ≠ []) :
    (joinLines lines).lines = lines := by
  rcases List.eq_nil_or_concat' lines with rfl | ⟨front, last, rfl⟩
  · rfl
  · obtain ⟨oneLineFront, oneLineLast⟩ := List.forall_mem_append.mp oneLine
    obtain ⟨keptFront, -⟩ := List.forall_mem_append.mp kept
    have isLast : last ∈ (front ++ [last]).getLast? := List.getLast?_concat
    calc
      (joinLines (front ++ [last])).lines
          = front.map withoutReturn ++ last.lines :=
        lines_joinLines_concat oneLineFront last
      _ = front ++ [last] := by
        rw [map_eq_self keptFront,
          lines_eq_singleton (lastNonempty last isLast) (oneLineLast last (by simp))]

/-- Finished lines are read back. -/
theorem lines_joinLines
    {lines : List Line}
    (finished : ∀ line ∈ lines, Finished line) :
    (joinLines lines).lines = lines :=
  lines_joinLines_of_last (fun line member => (finished line member).oneLine)
    (fun line member => (finished line member).withoutReturn_eq)
    (fun last isLast => (finished last (List.mem_of_getLast? isLast)).ne_nil)

/--
A text that starts with something other than a blank is read as it is on its own when
finished lines come before it.
-/
theorem lines_trim_joinLines
    {front : List Line}
    {last : Line}
    (starts : ∀ first ∈ (joinLines (front ++ [last])).head?, ¬ isBlank first)
    (oneLine : ∀ line ∈ front, '\n' ∉ line)
    (finished : Finished last)
    {rest : Text}
    (unindented : ∀ first ∈ rest.head?, ¬ isBlank first) :
    lines (trim (joinLines (front ++ [last, rest]))) =
      front.map withoutReturn ++ last :: rest.trim.lines := by
  have ends : ∀ final ∈ (joinLines (front ++ [last])).getLast?, ¬ isBlank final := by
    rw [getLast?_joinLines_concat front finished.ne_nil]
    exact fun _ => finished.not_isBlank_of_mem_getLast?
  have nonempty : joinLines (front ++ [last]) ≠ [] := by
    intro isNil
    have isLast := getLast?_joinLines_concat front finished.ne_nil
    rw [isNil, List.getLast?_nil] at isLast
    exact finished.ne_nil (List.getLast?_eq_none_iff.mp isLast.symm)
  have divided :
      joinLines (front ++ [last, rest]) = joinLines (front ++ [last]) ++ '\n' :: rest := by
    rw [List.append_cons, joinLines_concat (by simp)]
  rw [divided, trim_append nonempty starts ends]
  cases rest with
  | nil =>
      have nothing : trimEnd ['\n'] = [] := rfl
      rw [nothing, List.append_nil, lines_joinLines_concat oneLine,
        lines_eq_singleton finished.ne_nil finished.oneLine]
      rfl
  | cons character rest =>
      have notBlank : ¬ isBlankLine (character :: rest) :=
        fun blank => unindented character rfl (isBlankLine_iff.mp blank _ List.mem_cons_self)
      have trimmed : trimEnd ('\n' :: character :: rest) = '\n' :: trim (character :: rest) := by
        rw [trim, trimStart_eq_self unindented]
        exact trimEnd_append ['\n'] notBlank
      have allOneLine : ∀ line ∈ front ++ [last], '\n' ∉ line := by
        rw [List.forall_mem_append, List.forall_mem_singleton]
        exact ⟨oneLine, finished.oneLine⟩
      rw [trimmed, ← joinLines_concat (by simp), lines_joinLines_concat allOneLine,
        List.map_append, List.map_singleton, finished.withoutReturn_eq, List.append_assoc]
      rfl

end Text

end Guidebook
