import Guidebook.Text.Basic
import Mathlib.Data.List.DropRight

namespace Guidebook

/-!
# The lines of a text that goes on

When more lines are written behind a text, the lines that it had stay as they
are, but for the blanks at the end of its last one: at the end of the whole
text they are trimmed away, and in front of a line end they are kept.
-/

namespace Text

theorem isBlankLine_iff
    {text : Text} :
    text.isBlankLine ↔ ∀ character ∈ text, isBlank character := by
  rw [isBlankLine, List.all_eq_true]

@[simp] theorem isBlankLine_append
    (first second : Text) :
    (first ++ second).isBlankLine = (first.isBlankLine && second.isBlankLine) :=
  List.all_append

/-- Blanks in front are taken off with all that come behind them. -/
theorem trimStart_append_of_blank
    {lead : Text}
    (blank : lead.isBlankLine)
    (text : Text) :
    (lead ++ text).trimStart = text.trimStart :=
  List.dropWhile_append_of_pos (isBlankLine_iff.mp blank)

/-- Only of a blank line nothing is left without the blanks in front. -/
theorem trimStart_eq_nil_iff
    {text : Text} :
    text.trimStart = [] ↔ text.isBlankLine := by
  rw [isBlankLine_iff]
  exact List.dropWhile_eq_nil_iff

theorem trimEnd_eq_nil_iff
    {text : Text} :
    text.trimEnd = [] ↔ text.isBlankLine := by
  rw [isBlankLine_iff]
  exact List.rdropWhile_eq_nil_iff

/-- The blanks in front of a text are those of its first part that is not blank. -/
theorem trimStart_append
    {first : Text}
    (notBlank : ¬ first.isBlankLine)
    (second : Text) :
    (first ++ second).trimStart = first.trimStart ++ second := by
  have left : first.trimStart ≠ [] := fun isNil => notBlank (trimStart_eq_nil_iff.mp isNil)
  rw [trimStart, List.dropWhile_append, if_neg (by simpa [trimStart] using left)]
  rfl

/-- Blanks behind are taken off with all that come before them. -/
theorem trimEnd_append_of_blank
    (text : Text)
    {tail : Text}
    (blank : tail.isBlankLine) :
    (text ++ tail).trimEnd = text.trimEnd := by
  have blankReversed : ∀ character ∈ tail.reverse, isBlank character := by
    simpa using isBlankLine_iff.mp blank
  rw [trimEnd, List.reverse_append, List.dropWhile_append_of_pos blankReversed]
  rfl

theorem trimEnd_append
    (first : Text)
    {second : Text}
    (notBlank : ¬ second.isBlankLine) :
    (first ++ second).trimEnd = first ++ second.trimEnd := by
  have left : second.reverse.dropWhile isBlank ≠ [] := by
    intro isNil
    apply notBlank
    rw [← trimEnd_eq_nil_iff, trimEnd, isNil, List.reverse_nil]
  rw [trimEnd, List.reverse_append, List.dropWhile_append, if_neg (by simpa using left),
    List.reverse_append, List.reverse_reverse]
  rfl

/-- Blanks at the end of a line do not count once it is trimmed. -/
theorem trim_append_of_blank
    (text : Text)
    {tail : Text}
    (blank : tail.isBlankLine) :
    (text ++ tail).trim = text.trim := by
  by_cases allBlank : text.isBlankLine
  · have bothBlank : (text ++ tail).isBlankLine := by
      rw [isBlankLine_append, allBlank, blank]
      rfl
    rw [trim, trim, trimStart_eq_nil_iff.mpr allBlank, trimStart_eq_nil_iff.mpr bothBlank]
  · rw [trim, trimStart_append allBlank, trimEnd_append_of_blank _ blank]
    rfl

/-- Without the blanks around it a text is still part of itself. -/
theorem trim_infix
    (text : Text) :
    text.trim <:+: text := by
  have trimmedEnd : text.trim <+: text.trimStart := by
    rw [← List.reverse_suffix, trim, trimEnd, List.reverse_reverse]
    exact List.dropWhile_suffix isBlank
  exact trimmedEnd.isInfix.trans (List.dropWhile_suffix isBlank).isInfix

/-- Blanks in front of a text do not count once it is trimmed. -/
theorem trim_blank_append
    {lead : Text}
    (blank : lead.isBlankLine)
    (text : Text) :
    (lead ++ text).trim = text.trim :=
  congrArg trimEnd (trimStart_append_of_blank blank text)

/-- Only of a blank line nothing is left without the blanks around it. -/
theorem trim_eq_nil_iff
    {text : Text} :
    text.trim = [] ↔ text.isBlankLine := by
  have leadBlank : isBlankLine (text.takeWhile isBlank) :=
    isBlankLine_iff.mpr fun _ => List.mem_takeWhile_imp
  have divided : text.takeWhile isBlank ++ text.trimStart = text :=
    List.takeWhile_append_dropWhile
  have sameBlank : text.isBlankLine = text.trimStart.isBlankLine := by
    rw [← congrArg isBlankLine divided, isBlankLine_append, leadBlank, Bool.true_and]
  rw [trim, trimEnd_eq_nil_iff, sameBlank]

/-- The blanks in front of a line are there whatever stands behind it. -/
theorem indent_append
    {first : Text}
    (notBlank : ¬ first.isBlankLine)
    (second : Text) :
    (first ++ second).indent = first.indent := by
  have left : (first.takeWhile isBlank).length ≠ first.length := by
    intro sameLength
    apply notBlank
    rw [isBlankLine_iff]
    have whole := (List.takeWhile_prefix isBlank (l := first)).eq_of_length sameLength
    exact List.takeWhile_eq_self_iff.mp whole
  rw [indent, List.takeWhile_append, if_neg left]
  rfl

/-- A text without blanks around it does not end with one. -/
theorem isBlank_getLast?_trim
    {text : Text}
    {last : Char}
    (isLast : text.trim.getLast? = some last) :
    isBlank last = false := by
  have nonempty : text.trim ≠ [] := by
    intro isNil
    simp [isNil] at isLast
  have stops := List.rdropWhile_last_not isBlank text.trimStart nonempty
  rw [List.getLast?_eq_some_getLast nonempty, Option.some.injEq] at isLast
  rw [← isLast]
  exact Bool.eq_false_iff.mpr stops

/-- What trimming a text that is not blank leaves of it when more text follows. -/
theorem exists_trim_append
    {text : Text}
    (notBlank : ¬ text.isBlankLine) :
    ∃ blanks : Text, blanks.isBlankLine ∧
      (∀ more : Text, more.isBlankLine → (text ++ more).trim = text.trim) ∧
      ∀ more : Text, ¬ more.isBlankLine →
        (text ++ more).trim = text.trim ++ (blanks ++ more.trimEnd) := by
  refine ⟨text.trimStart.rtakeWhile isBlank, ?_, fun _ => text.trim_append_of_blank, ?_⟩
  · exact isBlankLine_iff.mpr fun _ => List.mem_rtakeWhile_imp
  · intro more moreNotBlank
    have divided : text.trim ++ text.trimStart.rtakeWhile isBlank = text.trimStart :=
      List.rdropWhile_append_rtakeWhile
    rw [trim, trimStart_append notBlank, trimEnd_append _ moreNotBlank, ← List.append_assoc,
      divided]

end Text

/-! Every character belongs to some line, and the first of them to the first line. -/

theorem consFirst_ne_nil
    (value : α)
    (groups : List (List α)) :
    consFirst value groups ≠ [] := by
  cases groups with
  | nil | cons =>
      simp [consFirst]

/-- Values in front join the first group. -/
theorem foldr_consFirst_cons
    (front first : List α)
    (others : List (List α)) :
    front.foldr consFirst (first :: others) = (front ++ first) :: others := by
  induction front with
  | nil =>
      rfl
  | cons character front inductionHypothesis =>
      rw [List.foldr_cons, inductionHypothesis]
      rfl

/-- A text that is not empty has a line. -/
theorem Text.lines_ne_nil
    {text : Text}
    (nonempty : text ≠ []) :
    text.lines ≠ [] := by
  fun_cases lines text with
  | case1 =>
      exact (nonempty rfl).elim
  | case2 | case3 =>
      simp
  | case4 character rest =>
      exact consFirst_ne_nil character (lines rest)

/-- A character that ends no line is the first one of the first line. -/
theorem Text.lines_cons
    {character : Char}
    {rest : Text}
    (noFeed : character ≠ '\n')
    (noReturn : character = '\r' → rest.head? ≠ some '\n') :
    lines (character :: rest) = consFirst character rest.lines := by
  apply lines.eq_4
  · rintro behind isReturn rfl
    exact noReturn isReturn rfl
  · exact noFeed

/-- A value in a group is the one that was put in front, or it was in a group before. -/
theorem mem_of_mem_consFirst
    {value other : α}
    {groups : List (List α)}
    {group : List α}
    (isOneOf : group ∈ consFirst value groups)
    (member : other ∈ group) :
    other = value ∨ ∃ old ∈ groups, other ∈ old := by
  cases groups with
  | nil =>
      rw [consFirst, List.mem_singleton] at isOneOf
      exact .inl (List.mem_singleton.mp (isOneOf ▸ member))
  | cons first others =>
      rcases List.mem_cons.mp isOneOf with isFirst | isLater
      · rcases List.mem_cons.mp (isFirst ▸ member) with isValue | inFirst
        · exact .inl isValue
        · exact .inr ⟨first, List.mem_cons_self, inFirst⟩
      · exact .inr ⟨group, List.mem_cons_of_mem _ isLater, member⟩

/-- The lines of a text have no characters of their own. -/
theorem Text.mem_of_mem_lines
    {text : Text}
    {line : Line}
    (isLine : line ∈ text.lines)
    {character : Char}
    (member : character ∈ line) :
    character ∈ text := by
  fun_induction lines text generalizing line with
  | case1 =>
      cases isLine
  | case2 rest inductionHypothesis =>
      rcases List.mem_cons.mp isLine with rfl | isLater
      · cases member
      · exact List.mem_cons_of_mem _ (List.mem_cons_of_mem _ (inductionHypothesis isLater member))
  | case3 rest inductionHypothesis =>
      rcases List.mem_cons.mp isLine with rfl | isLater
      · cases member
      · exact List.mem_cons_of_mem _ (inductionHypothesis isLater member)
  | case4 first rest _ _ inductionHypothesis =>
      rcases mem_of_mem_consFirst isLine member with rfl | ⟨old, isOld, inOld⟩
      · exact List.mem_cons_self
      · exact List.mem_cons_of_mem _ (inductionHypothesis isOld inOld)

/-- No line of a text has a line feed in it. -/
theorem Text.newline_not_mem_of_mem_lines
    {text : Text}
    {line : Line}
    (isLine : line ∈ text.lines) :
    '\n' ∉ line := by
  fun_induction lines text generalizing line with
  | case1 =>
      cases isLine
  | case2 rest inductionHypothesis | case3 rest inductionHypothesis =>
      rcases List.mem_cons.mp isLine with isFirst | isLater
      · rw [isFirst]
        exact List.not_mem_nil
      · exact inductionHypothesis isLater
  | case4 character rest _ notFeed inductionHypothesis =>
      intro member
      rcases mem_of_mem_consFirst isLine member with isCharacter | ⟨old, isOld, inOld⟩
      · exact notFeed isCharacter.symm
      · exact inductionHypothesis isOld inOld

/--
Lines that carry on others: the same lines, and more behind them.  Once more
lines follow, there may be blanks at the end of the line that was the last one.
-/
inductive Continues (more : List Line) : List Line → List Line → Prop where
  | nil :
      Continues more [] more
  | last
      {line : Line}
      (notBlank : ¬ line.isBlankLine)
      {blanks : Text}
      (blank : blanks.isBlankLine) :
      Continues more [line] ((line ++ blanks) :: more)
  | cons
      (line : Line)
      {lines longer : List Line} :
      Continues more lines longer →
      Continues more (line :: lines) (line :: longer)

/-- A reading of a line that takes no notice of blanks at its end. -/
def IgnoresBlanksBehind (reading : Line → α) : Prop :=
  ∀ line blanks : Line,
    ¬ line.isBlankLine →
    blanks.isBlankLine →
    reading (line ++ blanks) = reading line

namespace Continues

variable
    {more lines longer : List Line}

/-- The first line of others goes on with a line that reads the same. -/
theorem uncons
    {line : Line}
    (continues : Continues more (line :: lines) longer) :
    ∃ first rest, longer = first :: rest ∧ Continues more lines rest ∧
      ∀ {α : Type} {reading : Line → α},
        IgnoresBlanksBehind reading → reading first = reading line := by
  cases continues with
  | last notBlank blank =>
      exact ⟨_, more, rfl, .nil, fun ignores => ignores line _ notBlank blank⟩
  | cons _ continues =>
      exact ⟨line, _, rfl, continues, fun _ => rfl⟩

/-- A character in front of the first line leaves the lines behind it alone. -/
theorem consFirst
    (character : Char)
    (nonempty : lines ≠ [])
    (continues : Continues more lines longer) :
    Continues more (consFirst character lines) (consFirst character longer) := by
  cases continues with
  | nil =>
      exact (nonempty rfl).elim
  | @last line notBlank blanks blank =>
      refine .last ?_ blank
      rw [Text.isBlankLine_iff] at notBlank ⊢
      intro allBlank
      exact notBlank (fun other member => allBlank other (List.mem_cons_of_mem _ member))
  | cons line rest =>
      exact .cons (character :: line) rest

end Continues

namespace Text

/-- The lines of a text that does not end in a blank go on into what follows. -/
theorem continues_lines_append
    {text more : Text}
    {first : Line}
    {others : List Line}
    (nonempty : text ≠ [])
    (solid : ∀ last, text.getLast? = some last → isBlank last = false)
    (linesBehind : more.lines = first :: others)
    (blank : first.isBlankLine) :
    Continues others text.lines (text ++ more).lines := by
  fun_induction lines text with
  | case1 =>
      exact (nonempty rfl).elim
  | case2 rest inductionHypothesis =>
      cases rest with
      | nil =>
          have notBlank := solid '\n' rfl
          exact absurd notBlank (by decide)
      | cons character rest =>
          exact .cons [] (inductionHypothesis (by simp) (by simpa using solid))
  | case3 rest inductionHypothesis =>
      cases rest with
      | nil =>
          have notBlank := solid '\n' rfl
          exact absurd notBlank (by decide)
      | cons character rest =>
          exact .cons [] (inductionHypothesis (by simp) (by simpa using solid))
  | case4 character rest noReturn noFeed inductionHypothesis =>
      cases rest with
      | nil =>
          have notBlank := solid character rfl
          have notReturn : character ≠ '\r' := by
            rintro rfl
            exact absurd notBlank (by decide)
          rw [List.singleton_append, lines_cons noFeed (fun isReturn => (notReturn isReturn).elim),
            linesBehind]
          have lineNotBlank : ¬ isBlankLine [character] := by
            simpa [isBlankLine] using notBlank
          exact .last lineNotBlank blank
      | cons next rest =>
          have noFeedNext : character = '\r' → (next :: rest ++ more).head? ≠ some '\n' := by
            intro isReturn isFeed
            rw [List.cons_append, List.head?_cons, Option.some.injEq] at isFeed
            exact noReturn rest isReturn (by rw [isFeed])
          rw [List.cons_append, lines_cons noFeed noFeedNext]
          exact (inductionHypothesis (by simp) (by simpa using solid)).consFirst character
            (lines_ne_nil (by simp))

/-- Blanks in front of a line end make up blank lines. -/
theorem exists_lines_append_newline
    {blanks : Text}
    (blank : blanks.isBlankLine)
    (rest : Text) :
    ∃ first others, lines (blanks ++ '\n' :: rest) = first :: others ++ rest.lines ∧
      ∀ line ∈ first :: others, line.isBlankLine := by
  fun_induction lines blanks with
  | case1 =>
      exact ⟨[], [], rfl, by simp [isBlankLine]⟩
  | case2 blanks inductionHypothesis =>
      obtain ⟨first, others, same, allBlank⟩ := inductionHypothesis blank
      exact ⟨[], first :: others, congrArg (List.cons []) same,
        List.forall_mem_cons.mpr ⟨rfl, allBlank⟩⟩
  | case3 blanks inductionHypothesis =>
      obtain ⟨first, others, same, allBlank⟩ := inductionHypothesis blank
      exact ⟨[], first :: others, congrArg (List.cons []) same,
        List.forall_mem_cons.mpr ⟨rfl, allBlank⟩⟩
  | case4 character blanks noReturn noFeed inductionHypothesis =>
      have blankHere : isBlank character := isBlankLine_iff.mp blank character (by simp)
      have blankBehind : isBlankLine blanks :=
        isBlankLine_iff.mpr fun other member =>
          isBlankLine_iff.mp blank other (List.mem_cons_of_mem _ member)
      obtain ⟨first, others, same, allBlank⟩ := inductionHypothesis blankBehind
      by_cases endsHere : character = '\r' ∧ blanks = []
      · -- A carriage return right before the line end belongs to it.
        obtain ⟨rfl, rfl⟩ := endsHere
        exact ⟨[], [], rfl, by simp [isBlankLine]⟩
      · have noFeedNext :
            character = '\r' → (blanks ++ '\n' :: rest).head? ≠ some '\n' := by
          intro isReturn isFeed
          cases blanks with
          | nil =>
              exact endsHere ⟨isReturn, rfl⟩
          | cons next blanks =>
              rw [List.cons_append, List.head?_cons, Option.some.injEq] at isFeed
              exact noReturn blanks isReturn (by rw [isFeed])
        refine ⟨character :: first, others, ?_, ?_⟩
        · rw [List.cons_append, lines_cons noFeed noFeedNext, same]
          rfl
        · obtain ⟨firstBlank, othersBlank⟩ := List.forall_mem_cons.mp allBlank
          refine List.forall_mem_cons.mpr ⟨?_, othersBlank⟩
          rw [isBlankLine, List.all_cons, blankHere]
          exact firstBlank

/-- The lines of a text go on, after some blank ones, with those written behind it. -/
theorem exists_continues_lines_trim
    {text more : Text}
    (notBlank : ¬ text.isBlankLine)
    (moreNotBlank : ¬ more.isBlankLine) :
    ∃ blanks : List Line, (∀ line ∈ blanks, line.isBlankLine) ∧
      Continues (blanks ++ lines more.trimEnd) (lines text.trim)
        (lines (text ++ '\n' :: more).trim) := by
  obtain ⟨spaces, spacesBlank, -, trimmed⟩ := exists_trim_append notBlank
  have behindNotBlank : ¬ isBlankLine (['\n'] ++ more) := by
    rw [isBlankLine_append, Bool.and_eq_true]
    exact fun bothBlank => moreNotBlank bothBlank.2
  have wholeTrimmed := trimmed (['\n'] ++ more) behindNotBlank
  rw [trimEnd_append _ moreNotBlank] at wholeTrimmed
  obtain ⟨first, others, linesBehind, allBlank⟩ :=
    exists_lines_append_newline spacesBlank more.trimEnd
  obtain ⟨firstBlank, othersBlank⟩ := List.forall_mem_cons.mp allBlank
  refine ⟨others, othersBlank, ?_⟩
  have nonempty : text.trim ≠ [] := fun isNil => notBlank (trim_eq_nil_iff.mp isNil)
  have continues := continues_lines_append nonempty (fun _ => isBlank_getLast?_trim) linesBehind
    firstBlank
  rw [← List.singleton_append, wholeTrimmed]
  exact continues

end Text

end Guidebook
