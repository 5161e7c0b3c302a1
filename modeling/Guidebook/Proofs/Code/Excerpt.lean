import Guidebook.Proofs.Code.Extents
import Mathlib.Data.List.Basic

namespace Guidebook

/-!
# Patterns in excerpts

A pattern that fits in an excerpt of a text should fit at the same place in the
whole text.  Two things can be in the way.  At the ends of the excerpt a word may
seem to end that goes on in the text; that does not happen where the text is only
cut between words.  And a run may go on behind the excerpt, so that the pattern
fits with another extent; that does no harm at the end of a pattern.
-/

/-- Where a text may be cut. -/
inductive Cutting where
  | anywhere
  | betweenWords
  deriving Repr, DecidableEq

/-- Whether a text may be cut between two characters, of which either may be missing. -/
def Cutting.Allows : Cutting → Option Char → Option Char → Prop
  | anywhere, _, _ => True
  | betweenWords, before, next =>
      ¬ (before.any isWordCharacter ∧ next.any isWordCharacter)

theorem Cutting.allows_none_left
    (cutting : Cutting)
    (next : Option Char) :
    cutting.Allows none next := by
  cases cutting with
  | anywhere =>
      trivial
  | betweenWords =>
      rintro ⟨isWord, -⟩
      cases isWord

theorem Cutting.allows_none_right
    (cutting : Cutting)
    (before : Option Char) :
    cutting.Allows before none := by
  cases cutting with
  | anywhere =>
      trivial
  | betweenWords =>
      rintro ⟨-, isWord⟩
      cases isWord

/--
A text behind a character, as an excerpt of a longer text: the same character
stands there before it, unless the excerpt starts with it, and more text follows.
-/
structure Excerpt
    (cutting : Cutting)
    (before : Option Char)
    (text : Text)
    (outer : Option Char)
    (more : Text) :
    Prop where
  front : before = outer ∨ before = none ∧ cutting.Allows outer text.head?
  back : more = [] ∨ cutting.Allows (characterBefore before text text.length) more.head?

namespace Excerpt

variable
    {cutting : Cutting}
    {before outer : Option Char}
    {text more : Text}

/-- What is left of an excerpt behind some of its characters is an excerpt. -/
theorem drop
    (excerpt : Excerpt cutting before text outer more)
    {extent : Nat}
    (within : extent ≤ text.length) :
    Excerpt cutting (characterBefore before text extent) (text.drop extent)
      (characterBefore outer (text ++ more) extent) more where
  front := by
    cases extent with
    | zero =>
        exact excerpt.front
    | succ place =>
        exact .inl (List.getElem?_append_left within).symm
  back := by
    rw [characterBefore_drop, List.length_drop, Nat.add_sub_cancel' within]
    exact excerpt.back

/-- Behind a word no other word starts. -/
theorem not_isWordCharacter
    (excerpt : Excerpt .betweenWords before text outer more)
    (inWord : (characterBefore before text text.length).any isWordCharacter)
    {first : Char}
    (isFirst : more.head? = some first) :
    isWordCharacter first = false := by
  rcases excerpt.back with isEnd | allowed
  · simp [isEnd] at isFirst
  · rw [isFirst] at allowed
    by_contra isWord
    exact allowed ⟨inWord, by simpa using isWord⟩

end Excerpt

/-! ## Runs -/

/-- A run of word characters that has started does not go on behind an excerpt. -/
theorem runExtent_excerpt
    {accepts : Char → Bool}
    (words : ∀ character, accepts character → isWordCharacter character)
    {before outer : Option Char}
    {text more : Text}
    (excerpt : Excerpt .betweenWords before text outer more)
    (started : text ≠ [] ∨ before.any isWordCharacter) :
    runExtent accepts (text ++ more) = runExtent accepts text := by
  rcases Nat.lt_or_eq_of_le (runExtent_le_length accepts text) with stops | whole
  · exact runExtent_append_of_lt stops more
  · -- The run takes the whole excerpt, which ends in a word, so no word follows.
    have inWord : (characterBefore before text text.length).any isWordCharacter := by
      by_cases isEmpty : text = []
      · subst isEmpty
        exact started.resolve_left (by simp)
      · obtain ⟨last, member, isLast⟩ := exists_characterBefore_length before isEmpty
        rw [isLast]
        exact words last (accepts_of_runExtent_eq whole member)
    have nothing : runExtent accepts more = 0 := by
      cases more with
      | nil =>
          rfl
      | cons first rest =>
          have noWord := excerpt.not_isWordCharacter inWord rfl
          have notAccepted : accepts first = false := by
            by_contra isAccepted
            simp [words first (by simpa using isAccepted)] at noWord
          simp [runExtent, List.findIdx_cons, notAccepted]
    rw [runExtent_append_of_eq whole, nothing, Nat.zero_add, whole]

namespace Pattern

/-- A pattern that fits in an excerpt fits in the text, with the same extent. -/
def Steady (cutting : Cutting) (pattern : Pattern) : Prop :=
  ∀ ⦃before outer : Option Char⦄ ⦃text more : Text⦄ ⦃extent : Nat⦄,
    Excerpt cutting before text outer more →
    pattern.extent? before text = some extent →
    pattern.extent? outer (text ++ more) = some extent

/-- A pattern that fits in an excerpt fits in the text, with some extent. -/
def Lasting (cutting : Cutting) (pattern : Pattern) : Prop :=
  ∀ ⦃before outer : Option Char⦄ ⦃text more : Text⦄ ⦃extent : Nat⦄,
    Excerpt cutting before text outer more →
    pattern.extent? before text = some extent →
    ∃ further, pattern.extent? outer (text ++ more) = some further

variable
    {cutting : Cutting}
    {first second third : Pattern}

/-- A pattern that keeps its extent fits. -/
theorem Steady.lasting
    (steady : first.Steady cutting) :
    first.Lasting cutting := by
  intro before outer text more extent excerpt fits
  exact ⟨extent, steady excerpt fits⟩

theorem Steady.sequence
    (firstSteady : first.Steady cutting)
    (secondSteady : second.Steady cutting) :
    (first ++ second).Steady cutting := by
  intro before outer text more extent excerpt fits
  obtain ⟨start, rest, firstFits, secondFits, rfl⟩ := extent?_sequence_eq_some_iff.mp fits
  have within := extent?_le_length firstFits
  refine extent?_sequence_eq_some_iff.mpr ⟨start, rest, firstSteady excerpt firstFits, ?_, rfl⟩
  rw [List.drop_append_of_le_length within]
  exact secondSteady (excerpt.drop within) secondFits

/-- Only the last pattern of a sequence may become longer. -/
theorem Steady.sequence_lasting
    (firstSteady : first.Steady cutting)
    (secondLasting : second.Lasting cutting) :
    (first ++ second).Lasting cutting := by
  intro before outer text more extent excerpt fits
  obtain ⟨start, rest, firstFits, secondFits, rfl⟩ := extent?_sequence_eq_some_iff.mp fits
  have within := extent?_le_length firstFits
  obtain ⟨further, furtherFits⟩ := secondLasting (excerpt.drop within) secondFits
  refine ⟨start + further,
    extent?_sequence_eq_some_iff.mpr ⟨start, further, firstSteady excerpt firstFits, ?_, rfl⟩⟩
  rw [List.drop_append_of_le_length within]
  exact furtherFits

/-- A choice lasts when both of its patterns do, although another one may come to be taken. -/
theorem Lasting.choice
    (firstLasting : first.Lasting cutting)
    (secondLasting : second.Lasting cutting) :
    (first <|> second).Lasting cutting := by
  intro before outer text more extent excerpt fits
  cases firstFits : first.extent? outer (text ++ more) with
  | some further =>
      exact ⟨further, extent?_choice_eq_some_iff.mpr (.inl firstFits)⟩
  | none =>
      rcases extent?_choice_eq_some_iff.mp fits with isFirst | ⟨-, isSecond⟩
      · obtain ⟨further, furtherFits⟩ := firstLasting excerpt isFirst
        simp [furtherFits] at firstFits
      · obtain ⟨further, furtherFits⟩ := secondLasting excerpt isSecond
        exact ⟨further, extent?_choice_eq_some_iff.mpr (.inr ⟨firstFits, furtherFits⟩)⟩

/-- A choice keeps its extent if its patterns start with other characters. -/
theorem Steady.choice
    {firsts seconds : Char → Bool}
    (firstSteady : first.Steady cutting)
    (secondSteady : second.Steady cutting)
    (firstOpens : first.Opens firsts)
    (secondOpens : second.Opens seconds)
    (apart : ∀ character, seconds character → firsts character = false) :
    (first <|> second).Steady cutting := by
  intro before outer text more extent excerpt fits
  rw [extent?_choice_eq_some_iff] at fits ⊢
  rcases fits with isFirst | ⟨-, isSecond⟩
  · exact .inl (firstSteady excerpt isFirst)
  · refine .inr ⟨?_, secondSteady excerpt isSecond⟩
    obtain ⟨-, character, rest, rfl, isSecondStart⟩ := secondOpens isSecond
    refine Option.eq_none_iff_forall_ne_some.mpr ?_
    intro other isFirst
    obtain ⟨-, _, _, same, isFirstStart⟩ := firstOpens isFirst
    obtain ⟨rfl, -⟩ := List.cons.inj same
    simp [apart character isSecondStart] at isFirstStart

/-- A pattern that fits as a steady one does is steady. -/
theorem Steady.of_same
    (steady : second.Steady cutting)
    (same : ∀ before text, first.extent? before text = second.extent? before text) :
    first.Steady cutting := by
  intro before outer text more extent excerpt fits
  rw [same] at fits ⊢
  exact steady excerpt fits

/-- How sequences are nested makes no difference. -/
theorem Steady.sequence_assoc
    (steady : (first ++ (second ++ third)).Steady cutting) :
    ((first ++ second) ++ third).Steady cutting :=
  steady.of_same (extent?_sequence_assoc first second third)

/-! ## Single patterns -/

/-- A single character takes one character, whatever comes behind the excerpt. -/
theorem steady_one
    (accepts : Char → Bool) :
    (one accepts).Steady cutting := by
  intro before outer text more extent _ fits
  obtain ⟨first, rest, rfl, accepted, rfl⟩ := extent?_one_eq_some_iff.mp fits
  exact extent?_one_eq_some_iff.mpr ⟨first, rest ++ more, rfl, accepted, rfl⟩

/-- A run still fits when more characters of its class come behind the excerpt. -/
theorem lasting_run
    (accepts : Char → Bool) :
    (run accepts).Lasting cutting := by
  intro before outer text more extent _ fits
  obtain ⟨rfl, started⟩ := extent?_run_eq_some_iff.mp fits
  refine ⟨runExtent accepts (text ++ more), extent?_run_eq_some_iff.mpr ⟨rfl, ?_⟩⟩
  rcases Nat.lt_or_eq_of_le (runExtent_le_length accepts text) with stops | whole
  · rw [runExtent_append_of_lt stops more]
    exact started
  · rw [runExtent_append_of_eq whole, ← whole]
    exact Nat.add_pos_right _ started

/-- A run that may be empty always fits. -/
theorem lasting_any
    (accepts : Char → Bool) :
    (any accepts).Lasting cutting := by
  intro before outer text more extent _ _
  exact ⟨runExtent accepts (text ++ more), rfl⟩

/-- A character behind a pattern shows that the pattern ends inside the excerpt. -/
theorem Steady.sequence_character
    (stop : Char)
    (inside :
      ∀ ⦃before outer : Option Char⦄ ⦃text more : Text⦄ ⦃extent : Nat⦄,
        extent < text.length →
        first.extent? before text = some extent →
        first.extent? outer (text ++ more) = some extent) :
    (first ++ character stop).Steady cutting := by
  intro before outer text more extent excerpt fits
  obtain ⟨start, rest, firstFits, stopFits, rfl⟩ := extent?_sequence_eq_some_iff.mp fits
  have startsInside : start < text.length := by
    by_contra isEnd
    rw [List.drop_eq_nil_of_le (Nat.le_of_not_lt isEnd)] at stopFits
    simp [character, extent?] at stopFits
  have within := Nat.le_of_lt startsInside
  refine extent?_sequence_eq_some_iff.mpr
    ⟨start, rest, inside startsInside firstFits, ?_, rfl⟩
  rw [List.drop_append_of_le_length within]
  exact steady_one _ (excerpt.drop within) stopFits

/-- A run in front of a stop sign ends there in the line as well. -/
theorem steady_run_character
    (accepts : Char → Bool)
    (stop : Char) :
    (run accepts ++ character stop).Steady cutting := by
  refine Steady.sequence_character stop ?_
  intro before outer text more extent inside fits
  obtain ⟨rfl, started⟩ := extent?_run_eq_some_iff.mp fits
  exact extent?_run_eq_some_iff.mpr ⟨runExtent_append_of_lt inside more, started⟩

/-- A run that may be empty ends in front of a stop sign, too. -/
theorem steady_any_character
    (accepts : Char → Bool)
    (stop : Char) :
    (any accepts ++ character stop).Steady cutting := by
  refine Steady.sequence_character stop ?_
  intro before outer text more extent inside fits
  rw [extent?, Option.some.injEq] at fits ⊢
  subst fits
  exact runExtent_append_of_lt inside more

/-- The quote that closes a text closes it whatever comes behind. -/
theorem quotedExtent?_append
    {quote : Char}
    (noEscape : quote ≠ '\\')
    {text : Text}
    {extent : Nat}
    (fits : quotedExtent? quote text = some extent)
    (more : Text) :
    quotedExtent? quote (text ++ more) = some extent := by
  fun_induction quotedExtent? quote text generalizing extent with
  | case1 =>
      simp at fits
  | case2 =>
      simp at fits
  | case3 escaped rest noFeed inductionHypothesis =>
      obtain ⟨inner, innerFits, rfl⟩ := Option.map_eq_some_iff.mp fits
      rw [List.cons_append, List.cons_append, quotedExtent?, inductionHypothesis innerFits]
      · rfl
      · exact noFeed
  | case4 =>
      simp_all [quotedExtent?]
  | case5 =>
      simp at fits
  | case6 character rest _ _ _ _ inductionHypothesis =>
      obtain ⟨inner, innerFits, rfl⟩ := Option.map_eq_some_iff.mp fits
      simp_all [quotedExtent?]

/-- A quoted text that is closed in an excerpt is the same in the line. -/
theorem steady_quoted
    {quote : Char}
    (noEscape : quote ≠ '\\') :
    (quoted quote).Steady cutting := by
  intro before outer text more extent _ fits
  cases text with
  | nil =>
      simp [extent?] at fits
  | cons first rest =>
      simp only [List.cons_append, extent?, Option.ite_none_right_eq_some] at fits ⊢
      obtain ⟨isQuote, inner⟩ := fits
      obtain ⟨innerExtent, innerFits, rfl⟩ := Option.map_eq_some_iff.mp inner
      exact ⟨isQuote, Option.map_eq_some_iff.mpr
        ⟨innerExtent, quotedExtent?_append noEscape innerFits more, rfl⟩⟩

/-- A word that starts or ends at a place of an excerpt does so in the text. -/
theorem steady_boundary :
    boundary.Steady .betweenWords := by
  intro before outer text more extent excerpt fits
  simp only [extent?, Option.ite_none_right_eq_some] at fits ⊢
  obtain ⟨isBoundary, isNothing⟩ := fits
  refine ⟨?_, isNothing⟩
  cases text with
  | nil =>
      -- The excerpt ends with a word, and the same one ends there in the text.
      have inWord : before.any isWordCharacter := by
        simpa [isWordBoundary] using isBoundary
      have sameBefore : before = outer := by
        rcases excerpt.front with same | ⟨isStart, -⟩
        · exact same
        · simp [isStart] at inWord
      cases more with
      | nil =>
          simpa [sameBefore] using isBoundary
      | cons next further =>
          have isEnd := excerpt.not_isWordCharacter inWord rfl
          simp [isWordBoundary, ← sameBefore, inWord, isEnd]
  | cons first rest =>
      rcases excerpt.front with same | ⟨isStart, allowed⟩
      · simpa [isWordBoundary, same] using isBoundary
      · -- The excerpt starts with a word, so no word goes on into it.
        have inWord : isWordCharacter first := by
          simpa [isWordBoundary, isStart] using isBoundary
        have behindWord : outer.any isWordCharacter = false := by
          by_contra isWord
          exact allowed ⟨by simpa using isWord, by simpa using inWord⟩
        simp [isWordBoundary, behindWord, inWord]

/-- A run of word characters ends with its word, which no excerpt cuts. -/
theorem steady_run_of_words
    {accepts : Char → Bool}
    (words : ∀ character, accepts character → isWordCharacter character) :
    (run accepts).Steady .betweenWords := by
  intro before outer text more extent excerpt fits
  obtain ⟨rfl, started⟩ := extent?_run_eq_some_iff.mp fits
  have nonempty : text ≠ [] := by
    rintro rfl
    exact Nat.lt_irrefl 0 started
  exact extent?_run_eq_some_iff.mpr ⟨runExtent_excerpt words excerpt (.inl nonempty), started⟩

/-- A short run of word characters is cut off by its word or by its limit. -/
theorem steady_shortRun_of_words
    {accepts : Char → Bool}
    (words : ∀ character, accepts character → isWordCharacter character)
    (most : Nat) :
    (shortRun accepts most).Steady .betweenWords := by
  intro before outer text more extent excerpt fits
  have nonempty : text ≠ [] := by
    rintro rfl
    simp [extent?, runExtent] at fits
  simp only [extent?] at fits ⊢
  rw [runExtent_excerpt words excerpt (.inl nonempty)]
  exact fits

/-- A word of a list is the same one in the line, where no longer word can stand. -/
theorem steady_word
    {choices : List String}
    (nonempty : "" ∉ choices) :
    (word choices).Steady .betweenWords := by
  intro before outer text more extent excerpt fits
  have started : text ≠ [] := by
    rintro rfl
    simp [extent?, runExtent, nonempty] at fits
  simp only [extent?] at fits ⊢
  rw [runExtent_excerpt (fun _ => id) excerpt (.inl started),
    List.take_append_of_le_length (runExtent_le_length _ _)]
  exact fits

/-- Behind a word character a run of them, if any, ends with its word. -/
theorem steady_one_any_of_words
    {leads accepts : Char → Bool}
    (leadsWord : ∀ character, leads character → isWordCharacter character)
    (words : ∀ character, accepts character → isWordCharacter character) :
    (one leads ++ any accepts).Steady .betweenWords := by
  intro before outer text more extent excerpt fits
  obtain ⟨start, rest, oneFits, anyFits, rfl⟩ := extent?_sequence_eq_some_iff.mp fits
  refine extent?_sequence_eq_some_iff.mpr ⟨start, rest, steady_one _ excerpt oneFits, ?_, rfl⟩
  have within := extent?_le_length oneFits
  obtain ⟨first, behind, rfl, isLead, rfl⟩ := extent?_one_eq_some_iff.mp oneFits
  rw [extent?, Option.some.injEq] at anyFits ⊢
  rw [List.drop_append_of_le_length within,
    runExtent_excerpt words (excerpt.drop within) (.inr (leadsWord first isLead))]
  exact anyFits

end Pattern

end Guidebook
