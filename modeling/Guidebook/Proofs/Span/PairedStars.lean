import Guidebook.Span.Source

namespace Guidebook

/-!
# Runs of two stars

Whether a star closes an italic depends on the runs of stars ahead.  The search
for such a star fails only where every run is a pair.
-/

/-- Every run of stars in a text is a pair of stars. -/
inductive StarsPaired : Text → Prop where
  | nil :
      StarsPaired []
  | pair
      {rest : Text} :
      (∀ later, rest ≠ '*' :: later) →
      StarsPaired rest →
      StarsPaired ('*' :: '*' :: rest)
  | other
      {character : Char}
      {rest : Text} :
      character ≠ '*' →
      StarsPaired rest →
      StarsPaired (character :: rest)

namespace StarsPaired

/-- Behind any character but a star the runs of stars are whole, so they stay pairs. -/
theorem of_append
    {before after text : Text}
    {character : Char}
    (paired : StarsPaired text)
    (shape : text = before ++ character :: after)
    (notStar : character ≠ '*') :
    StarsPaired after := by
  induction paired generalizing before with
  | nil =>
      simp at shape
  | @pair rest _ _ inductionHypothesis =>
      match before with
      | [] =>
          simp only [List.nil_append, List.cons.injEq] at shape
          exact (notStar shape.1.symm).elim
      | [first] =>
          simp only [List.cons_append, List.nil_append, List.cons.injEq] at shape
          exact (notStar shape.2.1.symm).elim
      | first :: second :: later =>
          simp only [List.cons_append, List.cons.injEq] at shape
          exact inductionHypothesis shape.2.2
  | other _ restPaired inductionHypothesis =>
      match before with
      | [] =>
          simp only [List.nil_append, List.cons.injEq] at shape
          rw [← shape.2]
          exact restPaired
      | first :: later =>
          simp only [List.cons_append, List.cons.injEq] at shape
          exact inductionHypothesis shape.2

/-- A text without stars has them paired. -/
theorem of_not_mem
    {text : Text}
    (noStar : '*' ∉ text) :
    StarsPaired text := by
  induction text with
  | nil =>
      exact .nil
  | cons character rest inductionHypothesis =>
      simp only [List.mem_cons, not_or] at noStar
      exact .other (Ne.symm noStar.1) (inductionHypothesis noStar.2)

/-- A failed search for the closer of an italic has seen nothing but pairs. -/
theorem of_splitItalic?_eq_none
    {passed text : Text}
    {pending : Option (Text × Text)}
    (failed : splitItalic? passed pending text = none) :
    StarsPaired text := by
  fun_induction splitItalic? passed pending text with
  | case1 =>
      exact .nil
  | case2 =>
      simp at failed
  | case3 =>
      simp at failed
  | case4 passed pending rest notLonger inductionHypothesis =>
      exact .pair notLonger (inductionHypothesis failed)
  | case5 =>
      simp at failed
  | case6 passed pending character rest _ _ notStar inductionHypothesis =>
      exact .other notStar (inductionHypothesis failed)

/-- Where stars are paired and no pair closes a bold stretch, there is no star. -/
theorem not_mem_of_splitStrong?_eq_none
    {text : Text}
    (paired : StarsPaired text)
    (failed : splitStrong? text = none) :
    '*' ∉ text := by
  induction paired with
  | nil =>
      simp
  | pair _ _ _ =>
      simp [splitStrong?] at failed
  | @other character rest notStar _ inductionHypothesis =>
      have failedLater : splitStrong? rest = none := by
        rw [splitStrong?] at failed
        · simpa using failed
        · simp [notStar]
      simp only [List.mem_cons, not_or]
      exact ⟨Ne.symm notStar, inductionHypothesis failedLater⟩

/-- Behind a run that closes a bold stretch stars are still paired. -/
theorem of_splitStrong?
    {text before after : Text}
    {run : Nat}
    (paired : StarsPaired text)
    (found : splitStrong? text = some (before, run, after)) :
    StarsPaired after := by
  induction paired generalizing before with
  | nil =>
      simp [splitStrong?] at found
  | @pair rest notLonger restPaired _ =>
      simp only [splitStrong?, Option.some.injEq, Prod.mk.injEq] at found
      obtain ⟨_, _, rfl⟩ := found
      cases rest with
      | nil =>
          exact .nil
      | cons character later =>
          have notStar : character ≠ '*' := by
            rintro rfl
            exact notLonger later rfl
          rw [List.dropWhile_cons_of_neg (by simpa using notStar)]
          exact restPaired
  | @other character rest notStar _ inductionHypothesis =>
      rw [splitStrong?] at found
      · obtain ⟨⟨before', run', after'⟩, foundLater, same⟩ :=
          Option.map_eq_some_iff.mp found
        simp only [Prod.mk.injEq] at same
        obtain ⟨_, rfl, rfl⟩ := same
        exact inductionHypothesis foundLater
      · simp [notStar]

end StarsPaired

/-- Without a star there is no end of an italic. -/
theorem splitItalic?_eq_none_of_not_mem
    {passed text : Text}
    (noStar : '*' ∉ text) :
    splitItalic? passed none text = none := by
  induction text generalizing passed with
  | nil =>
      rfl
  | cons character rest inductionHypothesis =>
      simp only [List.mem_cons, not_or] at noStar
      rw [splitItalic?]
      · exact inductionHypothesis noStar.2
      all_goals simp [Ne.symm noStar.1]

end Guidebook
