import Guidebook.Block.Reading
import Guidebook.Code.Language
import Guidebook.Proofs.Text.Lines
import Guidebook.Typst.Guide

namespace Guidebook

/-!
# Carriage returns at line ends

A line may end with a line feed alone or with a carriage return in front of it.  The
return is a blank, so that a text with all of them loses the same lines by trimming; and
it belongs to the line end, so that the lines are the same ones.  Whatever is made of a
text is made of its lines.
-/

namespace Text

/-- How a character is written when each line feed has a carriage return in front of it. -/
def withReturn (character : Char) : Text :=
  if character = '\n' then ['\r', '\n'] else [character]

/-- A text with a carriage return in front of each line feed. -/
def withReturns (text : Text) : Text :=
  text.flatMap withReturn

theorem withReturns_cons
    (character : Char)
    (rest : Text) :
    withReturns (character :: rest) = withReturn character ++ withReturns rest :=
  List.flatMap_cons

/-- Carriage returns are put in character by character, also from the end. -/
theorem withReturns_concat
    (front : Text)
    (last : Char) :
    withReturns (front ++ [last]) = withReturns front ++ withReturn last := by
  rw [withReturns, List.flatMap_append, List.flatMap_singleton]
  rfl

/-! ## Trimming -/

/-- A carriage return makes no character blank that is not. -/
theorem isBlankLine_withReturn
    (character : Char) :
    (withReturn character).isBlankLine = isBlank character := by
  unfold withReturn
  split
  · next isFeed =>
      rw [isFeed]
      rfl
  · simp [isBlankLine]

/-- A character that is not blank has no carriage return put before it. -/
theorem withReturn_of_not_blank
    {character : Char}
    (solid : ¬ isBlank character) :
    withReturn character = [character] := by
  apply if_neg
  rintro rfl
  exact solid rfl

theorem trimStart_withReturns
    (text : Text) :
    text.withReturns.trimStart = text.trimStart.withReturns := by
  induction text with
  | nil =>
      rfl
  | cons character rest inductionHypothesis =>
      by_cases blank : isBlank character
      · have leadBlank : (withReturn character).isBlankLine := by
          rw [isBlankLine_withReturn, blank]
        rw [withReturns_cons, trimStart_append_of_blank leadBlank, inductionHypothesis, trimStart,
          trimStart, List.dropWhile_cons_of_pos blank]
      · rw [withReturns_cons, withReturn_of_not_blank blank, List.singleton_append, trimStart,
          trimStart, List.dropWhile_cons_of_neg blank, List.dropWhile_cons_of_neg blank,
          withReturns_cons, withReturn_of_not_blank blank, List.singleton_append]

theorem trimEnd_withReturns
    (text : Text) :
    text.withReturns.trimEnd = text.trimEnd.withReturns := by
  induction text using List.reverseRecOn with
  | nil =>
      rfl
  | append_singleton front last inductionHypothesis =>
      rw [withReturns_concat]
      by_cases blank : isBlank last
      · have tailBlank : (withReturn last).isBlankLine := by
          rw [isBlankLine_withReturn, blank]
        have lost : trimEnd (front ++ [last]) = trimEnd front :=
          List.rdropWhile_concat_pos isBlank front last blank
        rw [trimEnd_append_of_blank _ tailBlank, inductionHypothesis, lost]
      · have kept : trimEnd (front ++ [last]) = front ++ [last] :=
          List.rdropWhile_concat_neg isBlank front last blank
        rw [kept, withReturns_concat, withReturn_of_not_blank blank]
        exact List.rdropWhile_concat_neg isBlank (withReturns front) last blank

/-- Carriage returns may be put in before or after a text is trimmed. -/
theorem trim_withReturns
    (text : Text) :
    text.withReturns.trim = text.trim.withReturns := by
  rw [trim, trim, trimStart_withReturns, trimEnd_withReturns]

/-! ## Lines -/

/-- The lines of a text are the same with carriage returns in front of the line feeds. -/
theorem lines_withReturns
    {text : Text}
    (noReturn : '\r' ∉ text) :
    text.withReturns.lines = text.lines := by
  induction text with
  | nil =>
      rfl
  | cons character rest inductionHypothesis =>
      obtain ⟨notReturn, noReturnBehind⟩ := List.ne_and_not_mem_of_not_mem_cons noReturn
      have isPlain : ∀ other : Text, character = '\r' → other.head? ≠ some '\n' :=
        fun _ isReturn => absurd isReturn.symm notReturn
      by_cases isFeed : character = '\n'
      · subst isFeed
        exact congrArg (List.cons []) (inductionHypothesis noReturnBehind)
      · rw [withReturns_cons, withReturn, if_neg isFeed, List.singleton_append,
          lines_cons isFeed (isPlain _), lines_cons isFeed (isPlain _),
          inductionHypothesis noReturnBehind]

/-- The lines of a trimmed text are the same with carriage returns, too. -/
theorem lines_trim_withReturns
    {text : Text}
    (noReturn : '\r' ∉ text) :
    text.withReturns.trim.lines = text.trim.lines := by
  rw [trim_withReturns, lines_withReturns]
  exact fun member => noReturn (text.trim_infix.subset member)

/--
With carriage returns in front of its line feeds a text means the same: the blocks of a
guide, its markup in every theme, and the fragments of code in every language.
-/
theorem sameOutput_withReturns
    {text : Text}
    (noReturn : '\r' ∉ text) :
    Block.read text.withReturns = Block.read text ∧
      (∀ tag : Text,
        (Language.ofTag tag).highlight text.withReturns = (Language.ofTag tag).highlight text) ∧
      ∀ theme : Theme,
        theme.typeset (Block.read text.withReturns) = theme.typeset (Block.read text) := by
  have sameBlocks : Block.read text.withReturns = Block.read text :=
    congrArg Block.ofLines (lines_trim_withReturns noReturn)
  refine ⟨sameBlocks, ?_, ?_⟩
  · intro tag
    exact congrArg (List.map (Language.ofTag tag).highlightLine) (lines_withReturns noReturn)
  · intro theme
    rw [sameBlocks]

/-- Fenced code up to the end of the text, and a line end behind it. -/
theorem sameOutput_withReturns_fenced :
    let text : Text := ['~', '~', '~', '\n', 'a', '\n']
    let other : Text := ['~', '~', '~', '\r', '\n', 'a', '\r', '\n']
    '\r' ∉ text ∧
      text.withReturns = other ∧
      Block.read other = Block.read text ∧
      (∀ tag : Text,
        (Language.ofTag tag).highlight other = (Language.ofTag tag).highlight text) ∧
      ∀ theme : Theme, theme.typeset (Block.read other) = theme.typeset (Block.read text) := by
  intro text other
  have noReturn : '\r' ∉ text := by
    decide
  have written : text.withReturns = other := by
    decide
  refine ⟨noReturn, written, ?_⟩
  rw [← written]
  exact sameOutput_withReturns noReturn

end Text

end Guidebook
