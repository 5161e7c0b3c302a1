import Guidebook.Proofs.Text.Blank
import Guidebook.Text.Case

namespace Guidebook

/-!
# What small letters keep

A character never becomes a blank in small letters, and none of them goes away.
-/

theorem pos_of_mem_blankCodes :
    ∀ code ∈ blankCodes, 0 < code := by
  decide +kernel

/-- What is no code of a character stands for the character with the code zero. -/
theorem toNat_ofNat_eq_or
    (code : Nat) :
    (Char.ofNat code).toNat = code ∨ (Char.ofNat code).toNat = 0 := by
  by_cases isCode : code.isValidChar
  · rw [Char.ofNat, dif_pos isCode]
    exact .inl rfl
  · rw [Char.ofNat, dif_neg isCode]
    exact .inr rfl

/-- No letter is shifted to a blank. -/
theorem CaseShift.not_covers_of_mem_blankCodes :
    ∀ shift ∈ toSmall, ∀ code ∈ blankCodes,
      shift.covers ((code : Int) - shift.distance).toNat = false := by
  decide +kernel

/-- No letter moves to the place of a blank. -/
theorem CaseShift.not_isBlank_apply
    {character : Char}
    (solid : ¬ isBlank character) :
    ¬ isBlank (apply toSmall character) := by
  intro blank
  unfold apply at blank
  split at blank
  · exact solid blank
  · next shift found =>
      have member := toNat_mem_blankCodes blank
      have positive := pos_of_mem_blankCodes _ member
      have isCode := (toNat_ofNat_eq_or _).resolve_right (Nat.ne_of_gt positive)
      rw [isCode] at member positive
      have isSource :
          (((character.toNat + shift.distance).toNat : Int) - shift.distance).toNat =
            character.toNat := by
        omega
      have notCovered :=
        not_covers_of_mem_blankCodes shift (List.mem_of_find?_eq_some found) _ member
      rw [isSource, List.find?_some found] at notCovered
      cases notCovered

/-- An ASCII character is not made blank by making it small. -/
theorem not_isBlank_toLower :
    ∀ code < 0x80, isBlank (Char.ofNat code).toLower → isBlank (Char.ofNat code) := by
  decide +kernel

/-- A character that is not blank has no blank in its small form. -/
theorem not_isBlank_of_mem_smallForm
    {character : Char}
    (solid : ¬ isBlank character)
    {small : Char}
    (member : small ∈ smallForm character) :
    ¬ isBlank small := by
  unfold smallForm at member
  split at member
  · next isAscii =>
      rw [List.mem_singleton] at member
      intro blank
      have fromBlank := not_isBlank_toLower character.toNat isAscii
      rw [Char.ofNat_toNat, ← member] at fromBlank
      exact solid (fromBlank blank)
  · split at member
    · simp only [List.mem_cons, List.not_mem_nil, or_false] at member
      rcases member with rfl | rfl
      · decide
      · decide
    · rw [List.mem_singleton] at member
      rw [member]
      exact CaseShift.not_isBlank_apply solid

/-- Every character has a small form. -/
theorem smallForm_ne_nil
    (character : Char) :
    smallForm character ≠ [] := by
  fun_cases smallForm character with
  | case1 | case2 | case3 =>
      exact List.cons_ne_nil _ _

namespace Text

/-- No blank comes in where letters are made small, whatever stands before them. -/
theorem not_isBlank_of_mem_toSmallAfter
    {before text : Text}
    (solid : ∀ character ∈ text, ¬ isBlank character)
    {small : Char}
    (member : small ∈ toSmallAfter before text) :
    ¬ isBlank small := by
  fun_induction toSmallAfter before text with
  | case1 =>
      cases member
  | case2 before rest inductionHypothesis =>
      rcases List.mem_cons.mp member with isFirst | isLater
      · rw [isFirst]
        split
        · decide
        · decide
      · exact inductionHypothesis (List.forall_mem_cons.mp solid).2 isLater
  | case3 before character rest _ inductionHypothesis =>
      obtain ⟨first, others⟩ := List.forall_mem_cons.mp solid
      rcases List.mem_append.mp member with inFirst | isLater
      · exact not_isBlank_of_mem_smallForm first inFirst
      · exact inductionHypothesis others isLater

/-- No blank comes in where letters are made small. -/
theorem not_isBlank_of_mem_toSmall
    {text : Text}
    (solid : ∀ character ∈ text, ¬ isBlank character)
    {small : Char}
    (member : small ∈ text.toSmall) :
    ¬ isBlank small :=
  not_isBlank_of_mem_toSmallAfter solid member

/-- A text that is not empty is not so in small letters. -/
theorem toSmall_ne_nil
    {text : Text}
    (nonempty : text ≠ []) :
    text.toSmall ≠ [] := by
  unfold toSmall
  fun_cases toSmallAfter [] text with
  | case1 =>
      exact (nonempty rfl).elim
  | case2 rest =>
      exact List.cons_ne_nil _ _
  | case3 character rest =>
      exact List.append_ne_nil_of_left_ne_nil (smallForm_ne_nil character) _

end Text

end Guidebook
