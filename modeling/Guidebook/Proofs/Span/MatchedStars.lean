import Guidebook.Span.Delimiter
import Mathlib.Data.List.Basic

namespace Guidebook

/-!
# Stars that are matched

Bold and italic share their star, and the closer of either is searched for through
whatever stands inside.  What keeps the search on its way is that all stars inside
come from stretches of the other kind, which are closed: in a bold stretch every run
is a single star, and in an italic every second run of two is a closing one.  The last
of these runs may touch the closer that is searched for; a run of three then ends both
stretches.
-/

/-- The stars in a text are these marks, in pairs with no star between the two marks. -/
inductive StarsMatched (mark : Text) : Text → Prop where
  | nil :
      StarsMatched mark []
  | other
      {character : Char}
      {rest : Text} :
      character ≠ '*' →
      StarsMatched mark rest →
      StarsMatched mark (character :: rest)
  | enclosed
      {inside rest : Text} :
      inside ≠ [] →
      '*' ∉ inside →
      rest.head? ≠ some '*' →
      StarsMatched mark rest →
      StarsMatched mark (mark ++ inside ++ mark ++ rest)

namespace StarsMatched

variable {mark front rest : Text}

/-- A text without stars in front keeps the stars matched. -/
theorem append_of_not_mem
    (noStar : '*' ∉ front)
    (matched : StarsMatched mark rest) :
    StarsMatched mark (front ++ rest) := by
  induction front with
  | nil =>
      exact matched
  | cons character later inductionHypothesis =>
      rw [List.mem_cons, not_or] at noStar
      exact .other (Ne.symm noStar.1) (inductionHypothesis noStar.2)

/-- Matched texts may follow each other where their stars do not touch. -/
theorem append
    (matchedFront : StarsMatched mark front)
    (matched : StarsMatched mark rest)
    (apart : rest.head? ≠ some '*') :
    StarsMatched mark (front ++ rest) := by
  induction matchedFront with
  | nil =>
      exact matched
  | other notStar _ inductionHypothesis =>
      exact .other notStar inductionHypothesis
  | @enclosed inside later nonempty noStar laterApart _ inductionHypothesis =>
      have bothApart : (later ++ rest).head? ≠ some '*' := by
        cases later with
        | nil =>
            exact apart
        | cons =>
            exact laterApart
      rw [List.append_assoc]
      exact .enclosed nonempty noStar bothApart inductionHypothesis

end StarsMatched

/-- No run of stars is ahead of a text that does not start with one. -/
theorem run_eq_nil
    {text : Text}
    (ends : text.head? ≠ some '*') :
    text.runLength '*' = 0 ∧ text.takeWhile (· == '*') = [] ∧
      text.dropWhile (· == '*') = text := by
  cases text with
  | nil =>
      simp [Text.runLength]
  | cons character rest =>
      have notStar : character ≠ '*' := by
        simpa using ends
      simp [Text.runLength, notStar]

theorem head?_ne_star
    {text : Text}
    (noStar : ∀ rest, text ≠ '*' :: rest) :
    text.head? ≠ some '*' := by
  rwa [ne_eq, List.head?_eq_some_iff, not_exists]

/-- A star with no star behind it opens an italic. -/
theorem Opener.at?_star
    {body : Text}
    (single : body.head? ≠ some '*') :
    at? ('*' :: body) = some (.italic, body) := by
  cases body with
  | nil =>
      rfl
  | cons character rest =>
      rw [at?]
      rintro later ⟨⟩
      exact single rfl

/-! ## The closer of a bold stretch -/

/-- The search for two stars goes past a character, or a star that stands alone. -/
theorem splitStrong?_cons
    {character : Char}
    {rest : Text}
    (single : character ≠ '*' ∨ rest.head? ≠ some '*') :
    splitStrong? (character :: rest) =
      (splitStrong? rest).map fun (before, run, after) => (character :: before, run, after) := by
  rw [splitStrong?]
  rintro later rfl rfl
  simp at single

/-- The search for two stars goes through a text without stars. -/
theorem splitStrong?_append_of_not_mem
    {front behind before after : Text}
    {run : Nat}
    (noStar : '*' ∉ front)
    (found : splitStrong? behind = some (before, run, after)) :
    splitStrong? (front ++ behind) = some (front ++ before, run, after) := by
  induction front with
  | nil =>
      exact found
  | cons character later inductionHypothesis =>
      rw [List.mem_cons, not_or] at noStar
      rw [List.cons_append, splitStrong?_cons (.inl (Ne.symm noStar.1)),
        inductionHypothesis noStar.2]
      rfl

/-- Two stars are a run that closes. -/
theorem splitStrong?_two
    {behind : Text}
    (ends : behind.head? ≠ some '*') :
    splitStrong? ('*' :: '*' :: behind) = some ([], 2, behind) := by
  obtain ⟨noRun, _, whole⟩ := run_eq_nil ends
  rw [splitStrong?, noRun, whole]

theorem splitStrong?_three
    {behind : Text}
    (ends : behind.head? ≠ some '*') :
    splitStrong? ('*' :: '*' :: '*' :: behind) = some ([], 3, behind) := by
  obtain ⟨noRun, _, whole⟩ := run_eq_nil ends
  have oneMore : Text.runLength '*' ('*' :: behind) = 1 := by
    simp [Text.runLength, noRun]
  rw [splitStrong?, oneMore, List.dropWhile_cons_of_pos (by simp), whole]

/-- Behind single stars that are matched, two stars close a bold stretch around them. -/
theorem StarsMatched.splitStrong?_eq
    {text behind : Text}
    (matched : StarsMatched ['*'] text)
    (ends : behind.head? ≠ some '*') :
    ∃ before run, splitStrong? (text ++ '*' :: '*' :: behind) = some (before, run, behind) ∧
      before ++ List.replicate (run - 2) '*' = text := by
  induction matched with
  | nil =>
      exact ⟨[], 2, splitStrong?_two ends, rfl⟩
  | @other character _ notStar _ inductionHypothesis =>
      obtain ⟨before, run, found, same⟩ := inductionHypothesis
      refine ⟨character :: before, run, ?_, by rw [List.cons_append, same]⟩
      rw [List.cons_append, splitStrong?_cons (.inl notStar), found]
      rfl
  | @enclosed inside rest nonempty noStar apart _ inductionHypothesis =>
      have startsInside : (inside ++ '*' :: (rest ++ '*' :: '*' :: behind)).head? ≠ some '*' := by
        rw [List.head?_append_of_ne_nil inside nonempty]
        exact fun isStar => noStar (List.mem_of_head? isStar)
      -- The star behind the inside closes it, alone or at the front of the run that is found.
      have foundBehind : ∃ before run,
          splitStrong? ('*' :: (rest ++ '*' :: '*' :: behind)) = some (before, run, behind) ∧
            before ++ List.replicate (run - 2) '*' = '*' :: rest := by
        cases rest with
        | nil =>
            exact ⟨[], 3, splitStrong?_three ends, rfl⟩
        | cons character later =>
            obtain ⟨before, run, found, same⟩ := inductionHypothesis
            have single : (character :: later ++ '*' :: '*' :: behind).head? ≠ some '*' := apart
            refine ⟨'*' :: before, run, ?_, by rw [List.cons_append, same]⟩
            rw [splitStrong?_cons (.inr single), found]
            rfl
      obtain ⟨before, run, found, same⟩ := foundBehind
      refine ⟨'*' :: (inside ++ before), run, ?_, ?_⟩
      · have shape : ['*'] ++ inside ++ ['*'] ++ rest ++ '*' :: '*' :: behind =
            '*' :: (inside ++ '*' :: (rest ++ '*' :: '*' :: behind)) := by
          simp
        rw [shape, splitStrong?_cons (.inr startsInside),
          splitStrong?_append_of_not_mem noStar found]
        rfl
      · calc '*' :: (inside ++ before) ++ List.replicate (run - 2) '*'
            = '*' :: (inside ++ (before ++ List.replicate (run - 2) '*')) := by
              simp
          _ = ['*'] ++ inside ++ ['*'] ++ rest := by
              rw [same]
              simp

/-! ## The closer of an italic stretch -/

/-- The search for the end of an italic goes past other characters. -/
theorem splitItalic?_other
    {character : Char}
    (notStar : character ≠ '*')
    (passed : Text)
    (pending : Option (Text × Text))
    (rest : Text) :
    splitItalic? passed pending (character :: rest) =
      splitItalic? (character :: passed) pending rest := by
  rw [splitItalic?]
  all_goals simp [notStar]

theorem splitItalic?_append_of_not_mem
    {front : Text}
    (noStar : '*' ∉ front)
    (passed : Text)
    (pending : Option (Text × Text))
    (behind : Text) :
    splitItalic? passed pending (front ++ behind) =
      splitItalic? (front.reverse ++ passed) pending behind := by
  induction front generalizing passed with
  | nil =>
      rfl
  | cons character later inductionHypothesis =>
      rw [List.mem_cons, not_or] at noStar
      rw [List.cons_append, splitItalic?_other (Ne.symm noStar.1), inductionHypothesis noStar.2]
      simp

/-- A single star ends an italic. -/
theorem splitItalic?_one
    (passed : Text)
    (pending : Option (Text × Text))
    {behind : Text}
    (ends : behind.head? ≠ some '*') :
    splitItalic? passed pending ('*' :: behind) = some (passed.reverse, behind) := by
  rw [splitItalic?]
  · rintro later rfl
    simp at ends
  · rintro later rfl
    simp at ends

/-- Two stars open a bold stretch in an italic, or shut the one that is open. -/
theorem splitItalic?_two
    (passed : Text)
    (pending : Option (Text × Text))
    {behind : Text}
    (ends : behind.head? ≠ some '*') :
    splitItalic? passed pending ('*' :: '*' :: behind) =
      splitItalic? ('*' :: '*' :: passed)
        (if pending.isSome then none else some (passed, '*' :: behind)) behind := by
  rw [splitItalic?]
  rintro later rfl
  simp at ends

/-- Three stars shut the bold stretch that is open, and then the italic. -/
theorem splitItalic?_three
    (passed : Text)
    {pending : Option (Text × Text)}
    (isOpen : pending.isSome)
    {behind : Text}
    (ends : behind.head? ≠ some '*') :
    splitItalic? passed pending ('*' :: '*' :: '*' :: behind) =
      some (passed.reverse ++ ['*', '*'], behind) := by
  obtain ⟨_, taken, whole⟩ := run_eq_nil ends
  rw [splitItalic?, if_pos isOpen, taken, whole]

/-- Behind pairs of stars that are matched, one star closes an italic stretch around them. -/
theorem StarsMatched.splitItalic?_eq
    {text behind : Text}
    (matched : StarsMatched ['*', '*'] text)
    (ends : behind.head? ≠ some '*')
    (passed : Text) :
    splitItalic? passed none (text ++ '*' :: behind) = some (passed.reverse ++ text, behind) := by
  induction matched generalizing passed with
  | nil =>
      rw [List.nil_append, splitItalic?_one passed none ends, List.append_nil]
  | @other character rest notStar _ inductionHypothesis =>
      rw [List.cons_append, splitItalic?_other notStar, inductionHypothesis]
      simp
  | @enclosed inside rest nonempty noStar apart _ inductionHypothesis =>
      have startsInside : (inside ++ '*' :: '*' :: (rest ++ '*' :: behind)).head? ≠ some '*' := by
        rw [List.head?_append_of_ne_nil inside nonempty]
        exact fun isStar => noStar (List.mem_of_head? isStar)
      have shape : ['*', '*'] ++ inside ++ ['*', '*'] ++ rest ++ '*' :: behind =
          '*' :: '*' :: (inside ++ '*' :: '*' :: (rest ++ '*' :: behind)) := by
        simp
      rw [shape, splitItalic?_two passed none startsInside,
        splitItalic?_append_of_not_mem noStar]
      -- The pair of stars behind the inside is a run of its own, or the front of the last one.
      cases rest with
      | nil =>
          rw [List.nil_append, splitItalic?_three _ rfl ends]
          simp
      | cons character later =>
          have single : (character :: later ++ '*' :: behind).head? ≠ some '*' := apart
          rw [splitItalic?_two _ _ single]
          simp only [Option.isSome_none, Bool.false_eq_true, ↓reduceIte, Option.isSome_some]
          rw [inductionHypothesis]
          simp

end Guidebook
