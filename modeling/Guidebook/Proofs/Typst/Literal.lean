import Guidebook.Typst.Literal

namespace Guidebook.Typst

/-!
# Reading text back from markup

Both ways in which text reaches the markup can be undone where they stand: what
follows an escaped text or a string literal is found behind it, whatever the
text was.
-/

/--
The text that escaped markup shows, and the markup behind it, which starts at a
sign with a meaning of its own.
-/
def unescape : Text → Text × Text
  | [] => ([], [])
  | '\\' :: character :: rest =>
      let (text, behind) := unescape rest
      (character :: text, behind)
  | character :: rest =>
      if isMarkup character then ([], character :: rest)
      else
        let (text, behind) := unescape rest
        (character :: text, behind)

/-- The character that stands behind a backslash in a string literal. -/
def unquoteCharacter (character : Char) : Char :=
  if character = 't' then '\t' else character

/-- The text of a string literal whose opening quote has been read, and what is behind it. -/
def unquoteRest? : Text → Option (Text × Text)
  | [] => none
  | '"' :: rest => some ([], rest)
  | '\\' :: character :: rest =>
      (unquoteRest? rest).map fun (text, behind) => (unquoteCharacter character :: text, behind)
  | character :: rest =>
      (unquoteRest? rest).map fun (text, behind) => (character :: text, behind)

/-- The text of a string literal, and what is behind it. -/
def unquote? : Text → Option (Text × Text)
  | '"' :: rest => unquoteRest? rest
  | _ => none

/-- Markup that is over, or goes on with a sign that has a meaning of its own. -/
def AtMark (markup : Text) : Prop :=
  ∀ first, markup.head? = some first → isMarkup first ∧ first ≠ '\\'

theorem atMark_nil :
    AtMark [] :=
  nofun

/-- A sign of markup other than a backslash is a mark. -/
theorem atMark_cons
    {first : Char}
    (isMark : isMarkup first)
    (notBackslash : first ≠ '\\')
    (rest : Text) :
    AtMark (first :: rest) := by
  intro other isFirst
  rw [List.head?_cons, Option.some.injEq] at isFirst
  rw [← isFirst]
  exact ⟨isMark, notBackslash⟩

/-- No text is read off at a mark. -/
theorem unescape_of_atMark
    {markup : Text}
    (atMark : AtMark markup) :
    unescape markup = ([], markup) := by
  cases markup with
  | nil =>
      rfl
  | cons first rest =>
      obtain ⟨isMark, notBackslash⟩ := atMark first rfl
      rw [unescape, if_pos isMark]
      rintro _ _ isBackslash
      exact (notBackslash isBackslash).elim

/-- Escaping is undone where it ends. -/
theorem unescape_escape_append
    (text : Text)
    {markup : Text}
    (atMark : AtMark markup) :
    unescape (escape text ++ markup) = (text, markup) := by
  induction text with
  | nil =>
      exact unescape_of_atMark atMark
  | cons character rest inductionHypothesis =>
      rw [escape, List.flatMap_cons, ← escape, List.append_assoc, escapeCharacter]
      split
      · simp [unescape, inductionHypothesis]
      · next plain =>
          have notBackslash : character ≠ '\\' := by
            rintro rfl
            exact plain (by decide)
          rw [List.singleton_append, unescape, if_neg plain, inductionHypothesis]
          rintro _ _ isBackslash
          exact (notBackslash isBackslash).elim

/-- What is left of markup after a text is shorter than the markup by the text at least. -/
theorem length_unescape_le
    (markup : Text) :
    (unescape markup).1.length + (unescape markup).2.length ≤ markup.length := by
  fun_induction unescape markup with
  | case1 =>
      exact Nat.le_refl _
  | case2 character rest text behind same inductionHypothesis
  | case4 character rest _ _ text behind same inductionHypothesis =>
      rw [same] at inductionHypothesis
      simp only [List.length_cons] at inductionHypothesis ⊢
      omega
  | case3 =>
      simp

/-- A text that was quoted is read up to its closing quote. -/
theorem unquoteRest?_append
    (text rest : Text) :
    unquoteRest? (text.flatMap quoteCharacter ++ '"' :: rest) = some (text, rest) := by
  induction text with
  | nil =>
      rfl
  | cons character later inductionHypothesis =>
      rw [List.flatMap_cons, List.append_assoc]
      fun_cases quoteCharacter character with
      | case1 isQuote =>
          simp [unquoteRest?, inductionHypothesis, unquoteCharacter, isQuote]
      | case2 notQuote isBackslash =>
          simp [unquoteRest?, inductionHypothesis, unquoteCharacter, isBackslash]
      | case3 notQuote notBackslash isTab =>
          simp [unquoteRest?, inductionHypothesis, unquoteCharacter, isTab]
      | case4 notQuote notBackslash notTab =>
          simp [unquoteRest?, inductionHypothesis, notBackslash]

/-- A string literal ends where its text ends, whatever stands behind it. -/
theorem unquote?_quote_append
    (text rest : Text) :
    unquote? (quote text ++ rest) = some (text, rest) := by
  have whole := unquoteRest?_append text rest
  simpa [quote, unquote?] using whole

/-- Reading a quoted text takes its closing quote at least. -/
theorem length_lt_of_unquoteRest?
    {markup text rest : Text}
    (found : unquoteRest? markup = some (text, rest)) :
    rest.length < markup.length := by
  fun_induction unquoteRest? markup generalizing text with
  | case1 =>
      simp at found
  | case2 later =>
      simp only [Option.some.injEq, Prod.mk.injEq] at found
      simp [found.2]
  | case3 character later inductionHypothesis
  | case4 character later _ _ inductionHypothesis =>
      obtain ⟨⟨text', rest'⟩, foundLater, same⟩ := Option.map_eq_some_iff.mp found
      simp only [Prod.mk.injEq] at same
      obtain ⟨rfl, rfl⟩ := same
      have shorter := inductionHypothesis foundLater
      simp only [List.length_cons]
      omega

/-- A string literal takes up some of the markup that it is read from. -/
theorem length_lt_of_unquote?
    {markup text rest : Text}
    (found : unquote? markup = some (text, rest)) :
    rest.length < markup.length := by
  unfold unquote? at found
  split at found
  · next later =>
      exact Nat.lt_succ_of_lt (length_lt_of_unquoteRest? found)
  · simp at found

end Guidebook.Typst
