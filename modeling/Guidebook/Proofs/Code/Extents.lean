import Guidebook.Proofs.Code.Claims

namespace Guidebook

/-!
# Where patterns fit

What it takes for a pattern to fit somewhere, and the first character of what it
takes there.
-/

/-! The character before a place of a text that itself stands behind some character. -/

/-- The character before a place is the same one in what is left behind an earlier place. -/
theorem characterBefore_drop
    (before : Option Char)
    (text : Text)
    (start place : Nat) :
    characterBefore (characterBefore before text start) (text.drop start) place =
      characterBefore before text (start + place) := by
  cases place with
  | zero =>
      rfl
  | succ place =>
      exact List.getElem?_drop

/-- The character before the end of a text is one of the text. -/
theorem exists_characterBefore_length
    (before : Option Char)
    {text : Text}
    (nonempty : text ≠ []) :
    ∃ last ∈ text, characterBefore before text text.length = some last := by
  cases text with
  | nil =>
      exact (nonempty rfl).elim
  | cons character rest =>
      have within : rest.length < (character :: rest).length := Nat.lt_succ_self _
      exact ⟨(character :: rest)[rest.length], List.getElem_mem within,
        List.getElem?_eq_getElem within⟩

/-! The characters of a run, the one that ends it, and text behind it. -/

/-- Every character inside a run is of its class. -/
theorem accepts_of_lt_runExtent
    {accepts : Char → Bool}
    {text : Text}
    {place : Nat}
    (inside : place < runExtent accepts text)
    {character : Char}
    (isThere : text[place]? = some character) :
    accepts character := by
  obtain ⟨within, rfl⟩ := List.getElem?_eq_some_iff.mp isThere
  simpa using List.not_of_lt_findIdx inside

/-- The character behind a run is not of its class. -/
theorem not_accepts_of_getElem?_runExtent
    {accepts : Char → Bool}
    {text : Text}
    {next : Char}
    (isNext : text[runExtent accepts text]? = some next) :
    accepts next = false := by
  obtain ⟨within, rfl⟩ := List.getElem?_eq_some_iff.mp isNext
  exact Bool.not_eq_eq_eq_not.mp (List.findIdx_getElem (w := within))

/-- A run that ends inside a text does not reach into what comes behind the text. -/
theorem runExtent_append_of_lt
    {accepts : Char → Bool}
    {text : Text}
    (stops : runExtent accepts text < text.length)
    (more : Text) :
    runExtent accepts (text ++ more) = runExtent accepts text :=
  List.findIdx_append.trans (if_pos stops)

/-- A run that takes a whole text goes on in what comes behind it. -/
theorem runExtent_append_of_eq
    {accepts : Char → Bool}
    {text : Text}
    (whole : runExtent accepts text = text.length)
    (more : Text) :
    runExtent accepts (text ++ more) = runExtent accepts more + text.length :=
  List.findIdx_append.trans (if_neg (Nat.not_lt_of_le (Nat.le_of_eq whole.symm)))

/-- In a text that is one run every character is of the class. -/
theorem accepts_of_runExtent_eq
    {accepts : Char → Bool}
    {text : Text}
    (whole : runExtent accepts text = text.length)
    {character : Char}
    (member : character ∈ text) :
    accepts character := by
  simpa using List.findIdx_eq_length.mp whole character member

namespace Pattern

variable
    {first second third : Pattern}

/-! ## Patterns put together -/

/-- A sequence fits when its second pattern fits behind the first one. -/
theorem extent?_sequence
    (first second : Pattern)
    (before : Option Char)
    (text : Text) :
    (first ++ second).extent? before text =
      (first.extent? before text).bind fun extent =>
        (second.extent? (characterBefore before text extent) (text.drop extent)).map
          (extent + ·) := by
  show (first.sequence second).extent? before text = _
  rw [extent?]
  cases first.extent? before text with
  | none | some =>
      rfl

/-- A choice is its first pattern where that fits, and else its second one. -/
theorem extent?_choice
    (first second : Pattern)
    (before : Option Char)
    (text : Text) :
    (first <|> second).extent? before text =
      (first.extent? before text).or (second.extent? before text) := by
  show (first.choice second).extent? before text = _
  rw [extent?]
  cases first.extent? before text with
  | none | some =>
      rfl

/-- The extent of a sequence is that of both of its patterns. -/
theorem extent?_sequence_eq_some_iff
    {before : Option Char}
    {text : Text}
    {extent : Nat} :
    (first ++ second).extent? before text = some extent ↔
      ∃ start rest, first.extent? before text = some start ∧
        second.extent? (characterBefore before text start) (text.drop start) = some rest ∧
        extent = start + rest := by
  rw [extent?_sequence, Option.bind_eq_some_iff]
  constructor
  · rintro ⟨start, firstFits, behind⟩
    obtain ⟨rest, secondFits, rfl⟩ := Option.map_eq_some_iff.mp behind
    exact ⟨start, rest, firstFits, secondFits, rfl⟩
  · rintro ⟨start, rest, firstFits, secondFits, rfl⟩
    exact ⟨start, firstFits, Option.map_eq_some_iff.mpr ⟨rest, secondFits, rfl⟩⟩

/-- The extent of a choice is that of the first of its patterns that fits. -/
theorem extent?_choice_eq_some_iff
    {before : Option Char}
    {text : Text}
    {extent : Nat} :
    (first <|> second).extent? before text = some extent ↔
      first.extent? before text = some extent ∨
        first.extent? before text = none ∧ second.extent? before text = some extent := by
  rw [extent?_choice, Option.or_eq_some_iff]

/-- It does not matter which two of three patterns in a row are put together first. -/
theorem extent?_sequence_assoc
    (first second third : Pattern)
    (before : Option Char)
    (text : Text) :
    ((first ++ second) ++ third).extent? before text =
      (first ++ (second ++ third)).extent? before text := by
  simp only [extent?_sequence]
  cases first.extent? before text with
  | none =>
      rfl
  | some start =>
      simp only [Option.bind_some, characterBefore_drop, List.drop_drop]
      cases second.extent? (characterBefore before text start) (text.drop start) with
      | none =>
          rfl
      | some middle =>
          simp only [Option.map_some, Option.bind_some, Option.map_map]
          congr 1
          funext last
          exact Nat.add_assoc start middle last

/-- What two alternatives start with may be looked for once, in front of them. -/
theorem extent?_sequence_choice
    (first second third : Pattern)
    (before : Option Char)
    (text : Text) :
    ((first ++ second) <|> (first ++ third)).extent? before text =
      (first ++ (second <|> third)).extent? before text := by
  simp only [extent?_sequence, extent?_choice]
  cases first.extent? before text with
  | none =>
      rfl
  | some start =>
      exact Option.map_or.symm

/-! ## Single patterns -/

/-- A single character of a class fits one that is first. -/
theorem extent?_one_eq_some_iff
    {accepts : Char → Bool}
    {before : Option Char}
    {text : Text}
    {extent : Nat} :
    (one accepts).extent? before text = some extent ↔
      ∃ first rest, text = first :: rest ∧ accepts first ∧ extent = 1 := by
  cases text with
  | nil =>
      simp [extent?]
  | cons first rest =>
      rw [extent?, Option.ite_none_right_eq_some, Option.some.injEq]
      constructor
      · rintro ⟨accepted, rfl⟩
        exact ⟨first, rest, rfl, accepted, rfl⟩
      · rintro ⟨_, _, same, accepted, rfl⟩
        obtain ⟨rfl, rfl⟩ := List.cons.inj same
        exact ⟨accepted, rfl⟩

/-- A run fits where at least one character of its class is first. -/
theorem extent?_run_eq_some_iff
    {accepts : Char → Bool}
    {before : Option Char}
    {text : Text}
    {extent : Nat} :
    (run accepts).extent? before text = some extent ↔
      runExtent accepts text = extent ∧ 0 < extent := by
  rw [extent?, Option.ite_none_left_eq_some, Option.some.injEq]
  constructor
  · rintro ⟨started, rfl⟩
    exact ⟨rfl, Nat.pos_of_ne_zero started⟩
  · rintro ⟨rfl, started⟩
    exact ⟨Nat.ne_of_gt started, rfl⟩

/-- Between an opener and a stop sign there are only characters of the class in between. -/
theorem accepts_of_any_character
    {accepts : Char → Bool}
    {stop : Char}
    {before : Option Char}
    {text : Text}
    {extent place : Nat}
    (fits : (any accepts ++ character stop).extent? before text = some extent)
    (inside : place < extent)
    {found : Char}
    (isThere : text[place]? = some found) :
    accepts found ∨ found = stop := by
  obtain ⟨start, rest, anyFits, stopFits, rfl⟩ := extent?_sequence_eq_some_iff.mp fits
  rw [extent?, Option.some.injEq] at anyFits
  obtain ⟨first, behind, same, isStop, rfl⟩ := extent?_one_eq_some_iff.mp stopFits
  rcases Nat.lt_or_eq_of_le (Nat.le_of_lt_succ inside) with inRun | isLast
  · rw [← anyFits] at inRun
    exact .inl (accepts_of_lt_runExtent inRun isThere)
  · rw [isLast, ← List.head?_drop, same] at isThere
    obtain rfl := Option.some.inj isThere
    exact .inr (beq_iff_eq.mp isStop)

/-! ## First characters -/

/-- A pattern that takes at least one character, the first one of a class. -/
def Opens (pattern : Pattern) (accepts : Char → Bool) : Prop :=
  ∀ ⦃before : Option Char⦄ ⦃text : Text⦄ ⦃extent : Nat⦄,
    pattern.extent? before text = some extent →
    0 < extent ∧ ∃ first rest, text = first :: rest ∧ accepts first

variable
    {accepts others : Char → Bool}

/-- A pattern that opens with a class opens with any larger one. -/
theorem Opens.of_imp
    (opens : first.Opens accepts)
    (weaker : ∀ character, accepts character → others character) :
    first.Opens others := by
  intro before text extent fits
  obtain ⟨positive, character, rest, same, accepted⟩ := opens fits
  exact ⟨positive, character, rest, same, weaker character accepted⟩

theorem opens_one
    (accepts : Char → Bool) :
    (one accepts).Opens accepts := by
  intro before text extent fits
  obtain ⟨character, rest, same, accepted, rfl⟩ := extent?_one_eq_some_iff.mp fits
  exact ⟨Nat.one_pos, character, rest, same, accepted⟩

/-- A run that is not empty starts with a character of its class. -/
theorem exists_of_runExtent_pos
    {text : Text}
    (started : 0 < runExtent accepts text) :
    ∃ first rest, text = first :: rest ∧ accepts first := by
  cases text with
  | nil =>
      exact (Nat.lt_irrefl 0 started).elim
  | cons first rest =>
      exact ⟨first, rest, rfl, accepts_of_lt_runExtent started rfl⟩

/-- A run opens with its class. -/
theorem opens_run
    (accepts : Char → Bool) :
    (run accepts).Opens accepts := by
  intro before text extent fits
  obtain ⟨rfl, started⟩ := extent?_run_eq_some_iff.mp fits
  exact ⟨started, exists_of_runExtent_pos started⟩

theorem opens_shortRun
    (accepts : Char → Bool)
    (most : Nat) :
    (shortRun accepts most).Opens accepts := by
  intro before text extent fits
  rw [extent?, Option.ite_none_left_eq_some, not_or, Option.some.injEq] at fits
  obtain ⟨⟨started, -⟩, rfl⟩ := fits
  exact ⟨Nat.pos_of_ne_zero started, exists_of_runExtent_pos (Nat.pos_of_ne_zero started)⟩

theorem opens_quoted
    (quote : Char) :
    (quoted quote).Opens (· == quote) := by
  intro before text extent fits
  cases text with
  | nil =>
      simp [extent?] at fits
  | cons character rest =>
      rw [extent?, Option.ite_none_right_eq_some] at fits
      obtain ⟨isQuote, inner⟩ := fits
      obtain ⟨innerExtent, -, rfl⟩ := Option.map_eq_some_iff.mp inner
      exact ⟨Nat.succ_pos _, character, rest, rfl, beq_iff_eq.mpr isQuote⟩

/-- A word of a list opens with a word character, as no word in the list is empty. -/
theorem opens_word
    {choices : List String}
    (nonempty : "" ∉ choices) :
    (word choices).Opens isWordCharacter := by
  intro before text extent fits
  rw [extent?, Option.ite_none_right_eq_some, Option.some.injEq] at fits
  obtain ⟨isChoice, rfl⟩ := fits
  have started : 0 < runExtent isWordCharacter text := by
    apply Nat.pos_of_ne_zero
    intro isEmpty
    rw [isEmpty, List.take_zero, List.contains_iff_mem] at isChoice
    exact nonempty isChoice
  exact ⟨started, exists_of_runExtent_pos started⟩

/-- A sequence opens as its first pattern does. -/
theorem Opens.sequence
    (opens : first.Opens accepts)
    (second : Pattern) :
    (first ++ second).Opens accepts := by
  intro before text extent fits
  obtain ⟨start, rest, firstFits, -, rfl⟩ := extent?_sequence_eq_some_iff.mp fits
  obtain ⟨positive, isFirst⟩ := opens firstFits
  exact ⟨Nat.add_pos_left positive rest, isFirst⟩

/-- A word boundary takes no character, so the pattern behind it opens the sequence. -/
theorem Opens.boundary_sequence
    (opens : second.Opens accepts) :
    (boundary ++ second).Opens accepts := by
  intro before text extent fits
  obtain ⟨start, rest, boundaryFits, secondFits, rfl⟩ := extent?_sequence_eq_some_iff.mp fits
  rw [extent?, Option.ite_none_right_eq_some, Option.some.injEq] at boundaryFits
  obtain ⟨-, rfl⟩ := boundaryFits
  rw [Nat.zero_add]
  exact opens secondFits

theorem Opens.choice
    (firstOpens : first.Opens accepts)
    (secondOpens : second.Opens others) :
    (first <|> second).Opens fun character => accepts character || others character := by
  intro before text extent fits
  rcases extent?_choice_eq_some_iff.mp fits with isFirst | ⟨-, isSecond⟩
  · exact firstOpens.of_imp (fun _ accepted => by simp [accepted]) isFirst
  · exact secondOpens.of_imp (fun _ accepted => by simp [accepted]) isSecond

end Pattern

end Guidebook
