import Guidebook.Proofs.Text.Lines

namespace Guidebook

/-!
# Indented texts

A text is indented by putting the same number of spaces in front of all its lines,
blank ones apart.  A line is here what stands between two line feeds, so that the
indented text differs from the text by these spaces only.
-/

namespace Text

/-- A line with so many spaces in front; a blank line stays as it is. -/
def indentLine (count : Nat) (line : Line) : Line :=
  if line.isBlankLine then line else List.replicate count ' ' ++ line

/-- A text with so many spaces in front of every line that is not blank. -/
def indentLines (count : Nat) (text : Text) : Text :=
  ['\n'].intercalate ((text.splitOn '\n').map (indentLine count))

theorem isBlankLine_replicate_space
    (count : Nat) :
    isBlankLine (List.replicate count ' ') := by
  rw [isBlankLine_iff]
  intro character member
  rw [List.eq_of_mem_replicate member]
  rfl

/-- An indented line is blank just when the line is. -/
@[simp] theorem isBlankLine_indentLine
    (count : Nat)
    (line : Line) :
    (indentLine count line).isBlankLine = line.isBlankLine := by
  rw [indentLine]
  split
  · rfl
  · rw [isBlankLine_append, isBlankLine_replicate_space, Bool.true_and]

/-- Blanks in front add to the indent. -/
theorem indent_append_of_blank
    {lead : Text}
    (blank : lead.isBlankLine)
    (line : Line) :
    (lead ++ line).indent = lead.length + line.indent := by
  rw [indent, List.takeWhile_append_of_pos (isBlankLine_iff.mp blank), List.length_append]
  rfl

/-- A line that is not blank is moved in by as many blanks. -/
theorem indent_indentLine
    (count : Nat)
    {line : Line}
    (notBlank : ¬ line.isBlankLine) :
    (indentLine count line).indent = count + line.indent := by
  rw [indentLine, if_neg notBlank, indent_append_of_blank (isBlankLine_replicate_space count),
    List.length_replicate]

/-- An indented line has the same text between its blanks. -/
theorem trim_indentLine
    (count : Nat)
    (line : Line) :
    (indentLine count line).trim = line.trim := by
  rw [indentLine]
  split
  · rfl
  · exact trim_blank_append (isBlankLine_replicate_space count) line

/-! ## What stands between line feeds -/

/-- The first of the parts between line feeds, and the others. -/
theorem exists_splitOn_eq_cons
    (text : Text) :
    ∃ first others, text.splitOn '\n' = first :: others :=
  List.exists_cons_of_ne_nil (List.splitOn_ne_nil '\n' text)

/-- A line feed in front makes an empty first line. -/
theorem splitOn_cons_newline
    (rest : Text) :
    ('\n' :: rest).splitOn '\n' = [] :: rest.splitOn '\n' := by
  rw [List.splitOn_cons_eq_if_modifyHead, if_pos (by simp)]

/-- Any other character in front joins the first line. -/
theorem splitOn_cons_of_ne
    {character : Char}
    (notFeed : character ≠ '\n')
    (rest : Text) :
    (character :: rest).splitOn '\n' = (rest.splitOn '\n').modifyHead (character :: ·) := by
  rw [List.splitOn_cons_eq_if_modifyHead, if_neg (by simpa using notFeed)]

/-- No line has a line feed in it. -/
theorem newline_not_mem_of_mem_splitOn
    {text : Text}
    {line : Line}
    (member : line ∈ text.splitOn '\n') :
    '\n' ∉ line := by
  induction text generalizing line with
  | nil =>
      rw [List.splitOn_nil, List.mem_singleton] at member
      rw [member]
      exact List.not_mem_nil
  | cons character rest inductionHypothesis =>
      by_cases isFeed : character = '\n'
      · rw [isFeed, splitOn_cons_newline] at member
        rcases List.mem_cons.mp member with isFirst | isLater
        · rw [isFirst]
          exact List.not_mem_nil
        · exact inductionHypothesis isLater
      · obtain ⟨first, others, shape⟩ := exists_splitOn_eq_cons rest
        rw [splitOn_cons_of_ne isFeed, shape, List.modifyHead_cons] at member
        rw [shape] at inductionHypothesis
        rcases List.mem_cons.mp member with isFirst | isLater
        · rw [isFirst, List.mem_cons, not_or]
          exact ⟨Ne.symm isFeed, inductionHypothesis List.mem_cons_self⟩
        · exact inductionHypothesis (List.mem_cons_of_mem first isLater)

/-- A character at the end of a text stands at the end of its last part. -/
theorem exists_splitOn_concat
    (text : Text)
    {character : Char}
    (notFeed : character ≠ '\n') :
    ∃ front last,
      text.splitOn '\n' = front ++ [last] ∧
        (text ++ [character]).splitOn '\n' = front ++ [last ++ [character]] := by
  induction text with
  | nil =>
      refine ⟨[], [], rfl, ?_⟩
      rw [List.nil_append, splitOn_cons_of_ne notFeed]
      rfl
  | cons first rest inductionHypothesis =>
      obtain ⟨front, last, shape, longer⟩ := inductionHypothesis
      by_cases isFeed : first = '\n'
      · subst isFeed
        refine ⟨[] :: front, last, ?_, ?_⟩
        · rw [splitOn_cons_newline, shape]
          rfl
        · rw [List.cons_append, splitOn_cons_newline, longer]
          rfl
      · rw [List.cons_append, splitOn_cons_of_ne isFeed, splitOn_cons_of_ne isFeed, shape, longer]
        cases front with
        | nil =>
            exact ⟨[], first :: last, rfl, rfl⟩
        | cons line front =>
            exact ⟨(first :: line) :: front, last, rfl, rfl⟩

/-- The parts of an indented text are the parts of the text, each of them indented. -/
theorem splitOn_indentLines
    (count : Nat)
    (text : Text) :
    (text.indentLines count).splitOn '\n' = (text.splitOn '\n').map (indentLine count) := by
  apply List.splitOn_intercalate
  · rw [List.forall_mem_map]
    intro line member
    have noFeed := newline_not_mem_of_mem_splitOn member
    rw [indentLine]
    split
    · exact noFeed
    · rw [List.mem_append, not_or]
      refine ⟨?_, noFeed⟩
      intro isSpace
      cases List.eq_of_mem_replicate isSpace
  · rw [ne_eq, List.map_eq_nil_iff]
    exact List.splitOn_ne_nil '\n' text

end Text

end Guidebook
