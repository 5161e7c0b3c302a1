import Guidebook.Span.Reading

namespace Guidebook

/-!
# The pieces of a text

The pieces that a text is cut into are the text when they are put one after
the other, each with its delimiters.  None of them is an italic of nothing,
since a star right behind a star is never taken for the closer.
-/

/-- An italic that is closed has something inside. -/
theorem splitItalic?_inside_ne_nil
    {passed text inside after : Text}
    {pending : Option (Text × Text)}
    (hasPassed : passed ≠ [])
    (pendingPassed : ∀ split ∈ pending, split.1 ≠ [])
    (found : splitItalic? passed pending text = some (inside, after)) :
    inside ≠ [] := by
  fun_induction splitItalic? passed pending text with
  | case1 passed pending =>
      obtain ⟨split, isPending, same⟩ := Option.map_eq_some_iff.mp found
      simp only [Prod.mk.injEq] at same
      rw [← same.1]
      simpa using pendingPassed split isPending
  | case2 passed pending rest isOpen =>
      simp only [Option.some.injEq, Prod.mk.injEq] at found
      rw [← found.1]
      simp
  | case3 passed pending rest isShut =>
      simp only [Option.some.injEq, Prod.mk.injEq] at found
      rw [← found.1]
      simpa using hasPassed
  | case4 passed pending rest _ inductionHypothesis =>
      refine inductionHypothesis (by simp) ?_ found
      intro split isPending
      split at isPending
      · simp at isPending
      · simp only [Option.mem_def, Option.some.injEq] at isPending
        subst isPending
        exact hasPassed
  | case5 passed pending rest _ =>
      simp only [Option.some.injEq, Prod.mk.injEq] at found
      rw [← found.1]
      simpa using hasPassed
  | case6 passed pending character rest _ _ _ inductionHypothesis =>
      exact inductionHypothesis (by simp) pendingPassed found

/-- A piece of a text as it stands there. -/
def Piece.source : Piece → Text
  | .literal character => [character]
  | .captured capture => capture.source

namespace Opener

/-- A single star opens an italic only in front of another character. -/
theorem body_of_at?_italic
    {text body : Text}
    (found : at? text = some (.italic, body)) :
    ∀ rest, body ≠ '*' :: rest := by
  rintro rest rfl
  have shape := at?_eq found
  subst shape
  simp [mark, at?] at found

/-- An italic is never empty: its closer is searched for from the second character on. -/
theorem close_ne_italic_nil
    {opener : Opener}
    {body rest : Text}
    (noStar : opener = .italic → ∀ rest, body ≠ '*' :: rest) :
    opener.close body ≠ .closed (.italic []) rest := by
  intro closed
  cases opener with
  | italic =>
      simp only [close] at closed
      split at closed
      · simp at closed
      · next content after found =>
          simp only [Closing.closed.injEq, Capture.italic.injEq] at closed
          obtain ⟨rfl, rfl⟩ := closed
          cases body with
          | nil =>
              simp [splitItalic?] at found
          | cons character later =>
              have notStar : character ≠ '*' := by
                rintro rfl
                exact noStar rfl later rfl
              have passedOne :
                  splitItalic? [character] none later = some ([], after) := by
                rw [← found, splitItalic?]
                all_goals simp_all
              exact splitItalic?_inside_ne_nil (by simp) (by simp) passedOne rfl
  | _ =>
      simp only [close] at closed
      repeat' split at closed
      all_goals simp at closed

end Opener

/-- A captured stretch was closed behind the opener at the start of the text. -/
theorem Capture.exists_close_of_next?
    {spent left : List Closer}
    {text rest : Text}
    {capture : Capture}
    (found : next? spent text = (some (capture, rest), left)) :
    ∃ opener body,
      Opener.at? text = some (opener, body) ∧ opener.close body = .closed capture rest := by
  unfold next? at found
  split at found
  · simp at found
  · next opener body opened =>
      split at found
      · simp at found
      · split at found
        · next closed =>
            simp only [Prod.mk.injEq, Option.some.injEq] at found
            obtain ⟨⟨rfl, rfl⟩, _⟩ := found
            exact ⟨opener, body, opened, closed⟩
        · simp at found
        · simp at found

/-- A stretch that is found is what the text starts with. -/
theorem Capture.next?_eq
    {spent left : List Closer}
    {text rest : Text}
    {capture : Capture}
    (found : next? spent text = (some (capture, rest), left)) :
    text = capture.source ++ rest := by
  obtain ⟨opener, body, opened, closed⟩ := exists_close_of_next? found
  rw [Opener.at?_eq opened, Opener.close_eq closed]

/-- What holds of all texts holds of them, too, when a literal character is put in front. -/
theorem Stretch.forall_mem_consLiteral
    {holds : Span → Prop}
    (ofText : ∀ content, holds (.text content))
    (character : Char)
    {stretches : List Stretch}
    (hold : ∀ stretch ∈ stretches, holds stretch.toSpan) :
    ∀ stretch ∈ consLiteral character stretches, holds stretch.toSpan := by
  fun_cases consLiteral character stretches with
  | case1 characters rest =>
      exact List.forall_mem_cons.mpr ⟨ofText _, (List.forall_mem_cons.mp hold).2⟩
  | case2 =>
      exact List.forall_mem_cons.mpr ⟨ofText _, hold⟩

namespace Piece

/-- The pieces of a text, one after the other, are the text. -/
@[simp] theorem flatMap_source_cut
    (spent : List Closer)
    (text : Text) :
    (cut spent text).flatMap source = text := by
  fun_induction cut spent text with
  | case1 =>
      rfl
  | case2 spent character rest capture after left found inductionHypothesis =>
      rw [List.flatMap_cons, inductionHypothesis]
      exact (Capture.next?_eq found).symm
  | case3 spent character rest left found inductionHypothesis =>
      rw [List.flatMap_cons, inductionHypothesis]
      rfl

/-- A stretch that a text is cut into stands in the text. -/
theorem source_infix_of_mem_cut
    {spent : List Closer}
    {text : Text}
    {capture : Capture}
    (member : captured capture ∈ cut spent text) :
    capture.source <:+: text := by
  have stands : capture.source <:+: ((cut spent text).map source).flatten :=
    List.infix_of_mem_flatten (List.mem_map_of_mem member)
  rwa [← List.flatMap_def, flatMap_source_cut] at stands

/-- A stretch that a text is cut into was closed behind an opener. -/
theorem exists_close_of_mem_cut
    {spent : List Closer}
    {text : Text}
    {capture : Capture}
    (member : captured capture ∈ cut spent text) :
    ∃ start opener body rest,
      Opener.at? start = some (opener, body) ∧ opener.close body = .closed capture rest := by
  fun_induction cut spent text with
  | case1 =>
      simp at member
  | case2 spent character rest first after left found inductionHypothesis =>
      rcases List.mem_cons.mp member with isFirst | isLater
      · cases isFirst
        obtain ⟨opener, body, opened, closed⟩ := Capture.exists_close_of_next? found
        exact ⟨character :: rest, opener, body, after, opened, closed⟩
      · exact inductionHypothesis isLater
  | case3 spent character rest left found inductionHypothesis =>
      rcases List.mem_cons.mp member with isFirst | isLater
      · cases isFirst
      · exact inductionHypothesis isLater

/-- No text is cut into an italic of nothing. -/
theorem ne_italic_nil_of_mem_cut
    {spent : List Closer}
    {text : Text}
    {capture : Capture}
    (member : captured capture ∈ cut spent text) :
    capture ≠ .italic [] := by
  rintro rfl
  obtain ⟨start, opener, body, rest, opened, closed⟩ := exists_close_of_mem_cut member
  refine Opener.close_ne_italic_nil ?_ closed
  rintro rfl
  exact Opener.body_of_at?_italic opened

/--
Whatever holds of all texts, and of the spans that the captured pieces stand for, holds
of all spans that the pieces are joined to.
-/
theorem forall_mem_foldr_join
    {inside : Text → List Span}
    (holds : Span → Prop)
    (ofText : ∀ content, holds (.text content))
    {pieces : List Piece}
    (ofCaptured :
      ∀ capture, captured capture ∈ pieces →
        ∀ span, capture.span? inside = some span → holds span) :
    ∀ stretch ∈ pieces.foldr (join inside) [], holds stretch.toSpan := by
  induction pieces with
  | nil =>
      exact List.forall_mem_nil _
  | cons piece rest inductionHypothesis =>
      have behind := inductionHypothesis fun capture member =>
        ofCaptured capture (List.mem_cons_of_mem piece member)
      rw [List.foldr_cons]
      cases piece with
      | literal character =>
          exact Stretch.forall_mem_consLiteral ofText character behind
      | captured capture =>
          rw [join]
          split
          · exact behind
          · next span formed =>
              exact List.forall_mem_cons.mpr
                ⟨ofCaptured capture List.mem_cons_self span formed, behind⟩

end Piece

end Guidebook
