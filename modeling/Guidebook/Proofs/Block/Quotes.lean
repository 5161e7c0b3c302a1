import Guidebook.Proofs.Block.Written
import Mathlib

namespace Guidebook

/-!
# Quotes that are written and read back

A quote is written with a mark in front of each of its lines and a bare mark between its
paragraphs.  It is read back with all of its paragraphs, and with the admonition that its
first line names.  What names none stays in the text.
-/

/-- Whether a word names an admonition, in capital letters, small ones or both. -/
def Callout.IsNamedBy (callout : Callout) (word : Text) : Prop :=
  word.map Char.toLower = callout.name.toList

instance (callout : Callout) (word : Text) : Decidable (callout.IsNamedBy word) :=
  inferInstanceAs (Decidable (word.map Char.toLower = callout.name.toList))

/-- A word in the brackets that set an admonition off from the text behind it. -/
def bracketed (word : Text) : Text :=
  ['[', '!'] ++ word ++ [']']

/-- A text behind the mark of a quote; behind nothing else, the mark stands alone. -/
def quoteLine (text : Text) : Line :=
  if text.isEmpty then ['>'] else '>' :: ' ' :: text

/-- A quote as it is written: an admonition with the word that names it, and paragraphs. -/
structure QuoteSource where
  marker? : Option (Callout × Text)
  paragraphs : List (List Line)

namespace QuoteSource

/-- What stands behind the marks: the name of the admonition, and lines with gaps between them. -/
def texts (quote : QuoteSource) : List Text :=
  (quote.marker?.map fun marker => bracketed marker.2).toList ++ [[]].intercalate quote.paragraphs

/-- The lines of a quote. -/
def lines (quote : QuoteSource) : List Line :=
  quote.texts.map quoteLine

/--
No paragraph is empty and no line blank.  Without an admonition, the first line does not
name one in brackets.
-/
structure WellFormed (quote : QuoteSource) : Prop where
  named : ∀ marker ∈ quote.marker?, marker.1.IsNamedBy marker.2
  paragraphs : ∀ paragraph ∈ quote.paragraphs, paragraph ≠ []
  phrases : ∀ paragraph ∈ quote.paragraphs, ∀ line ∈ paragraph, line ≠ [] ∧ Text.Phrase line
  plain :
    quote.marker? = none →
      ∃ first ∈ quote.paragraphs.flatten.head?,
        ∀ callout word, Callout.IsNamedBy callout word → ¬ bracketed word <+: first

end QuoteSource

/-! ## Names of admonitions -/

namespace Callout

/-- The title of a callout is its name, but for the case of letters. -/
theorem map_toLower_title
    (callout : Callout) :
    callout.title.toList.map Char.toLower = callout.name.toList := by
  cases callout <;> decide

/-- Looking a word up finds just the admonition that it names. -/
theorem ofMarker?_eq_some_iff
    {callout : Callout}
    {word : Text} :
    ofMarker? word = some callout ↔ callout.IsNamedBy word := by
  constructor
  · intro found
    have same := List.find?_some found
    rw [beq_iff_eq, map_toLower_title] at same
    exact same.symm
  · intro named
    have letters : word.map Char.toLower = callout.name.toList := named
    simp only [ofMarker?, map_toLower_title, letters]
    cases callout <;> simp [all, name]

/-- The word that names a callout is made of letters. -/
theorem IsNamedBy.isAlpha
    {callout : Callout}
    {word : Text}
    (named : callout.IsNamedBy word) :
    ∀ character ∈ word, character.isAlpha := by
  have letters : ∀ character ∈ callout.name.toList, character.isAlpha := by
    cases callout <;> simp [name, Char.isAlpha, Char.isLower]
  intro character member
  rw [← Char.isAlpha_toLower_eq_isAlpha]
  exact letters _ (named ▸ List.mem_map_of_mem member)

/-- A callout is read from its word in brackets, in any case of letters. -/
theorem marker?_bracketed
    {callout : Callout}
    {word : Text}
    (named : callout.IsNamedBy word) :
    marker? (bracketed word) = some (callout, []) := by
  have ends : ∀ first ∈ [']'].head?, ¬ Char.isAlpha first := by
    rintro first ⟨⟩
    decide
  obtain ⟨isWord, behindWord⟩ := takeWhile_append_of_stops named.isAlpha ends
  simp [marker?, bracketed, isWord, behindWord, ofMarker?_eq_some_iff.mpr named]

/-- A text has no marker unless it starts with a name in brackets. -/
theorem marker?_eq_none
    {text : Text}
    (plain : ∀ callout word, IsNamedBy callout word → ¬ bracketed word <+: text) :
    marker? text = none := by
  unfold marker?
  split
  · next rest =>
      split
      · next body behindWord =>
          have divided : rest.takeWhile Char.isAlpha ++ ']' :: body = rest := by
            rw [← behindWord, List.takeWhile_append_dropWhile]
          rw [Option.map_eq_none_iff, Option.eq_none_iff_forall_ne_some]
          intro callout found
          apply plain callout _ (ofMarker?_eq_some_iff.mp found)
          exact ⟨body, by simp [bracketed, divided]⟩
      · rfl
  · rfl

end Callout

/-! ## Paragraphs -/

/-- Texts that are not empty join the group behind them. -/
theorem groupsBetweenEmpty_append
    {group : List Text}
    (solid : ∀ text ∈ group, text ≠ [])
    (rest : List Text) :
    groupsBetweenEmpty (group ++ rest) = group.foldr consFirst (groupsBetweenEmpty rest) := by
  induction group with
  | nil =>
      rfl
  | cons text group inductionHypothesis =>
      obtain ⟨solidFirst, solidOthers⟩ := List.forall_mem_cons.mp solid
      simp [groupsBetweenEmpty, solidFirst, inductionHypothesis solidOthers]

/-- Groups that are put together with an empty text between them are divided again. -/
theorem groupsBetweenEmpty_intercalate
    {groups : List (List Text)}
    (nonempty : ∀ group ∈ groups, group ≠ [])
    (solid : ∀ group ∈ groups, ∀ text ∈ group, text ≠ []) :
    groupsBetweenEmpty ([[]].intercalate groups) = groups := by
  induction groups with
  | nil =>
      rfl
  | cons group groups inductionHypothesis =>
      obtain ⟨nonemptyFirst, nonemptyOthers⟩ := List.forall_mem_cons.mp nonempty
      obtain ⟨solidFirst, solidOthers⟩ := List.forall_mem_cons.mp solid
      cases groups with
      | nil =>
          obtain ⟨front, last, rfl⟩ := (List.eq_nil_or_concat' group).resolve_left nonemptyFirst
          have whole := groupsBetweenEmpty_append solidFirst []
          rw [List.foldr_append] at whole
          simpa using whole.trans (foldr_consFirst_cons front [last] [])
      | cons next groups =>
          have others := inductionHypothesis nonemptyOthers solidOthers
          rw [List.intercalate_cons_cons, List.append_assoc, groupsBetweenEmpty_append solidFirst]
          have divided :
              groupsBetweenEmpty ([[]] ++ [[]].intercalate (next :: groups)) =
                [] :: next :: groups :=
            congrArg (List.cons []) others
          rw [divided, foldr_consFirst_cons, List.append_nil]

/-- Between the paragraphs there is nothing but gaps. -/
theorem phrase_of_mem_intercalate
    {paragraphs : List (List Line)}
    (phrases : ∀ paragraph ∈ paragraphs, ∀ line ∈ paragraph, Text.Phrase line)
    {text : Text}
    (member : text ∈ [[]].intercalate paragraphs) :
    Text.Phrase text := by
  induction paragraphs with
  | nil =>
      cases member
  | cons paragraph paragraphs inductionHypothesis =>
      obtain ⟨firstPhrases, otherPhrases⟩ := List.forall_mem_cons.mp phrases
      cases paragraphs with
      | nil =>
          rw [List.intercalate_singleton] at member
          exact firstPhrases text member
      | cons next paragraphs =>
          rw [List.intercalate_cons_cons, List.append_assoc] at member
          rcases List.mem_append.mp member with inFirst | isLater
          · exact firstPhrases text inFirst
          · rcases List.mem_cons.mp isLater with rfl | inOthers
            · decide
            · exact inductionHypothesis otherPhrases inOthers

/-- Gaps divide the paragraphs of a quote, of which none is left out. -/
theorem quoteParagraphs_intercalate
    {paragraphs : List (List Line)}
    (nonempty : ∀ paragraph ∈ paragraphs, paragraph ≠ [])
    (phrases : ∀ paragraph ∈ paragraphs, ∀ line ∈ paragraph, line ≠ [] ∧ Text.Phrase line) :
    quoteParagraphs ([[]].intercalate paragraphs) =
      paragraphs.map fun paragraph => Span.read ([' '].intercalate paragraph) := by
  have trimmed : ([[]].intercalate paragraphs).map Text.trim = [[]].intercalate paragraphs := by
    apply map_eq_self
    intro text member
    have phrase := phrase_of_mem_intercalate
      (fun paragraph isOne line inside => (phrases paragraph isOne line inside).2) member
    exact phrase.trim_eq
  have divided : groupsBetweenEmpty ([[]].intercalate paragraphs) = paragraphs :=
    groupsBetweenEmpty_intercalate nonempty
      fun paragraph isOne line inside => (phrases paragraph isOne line inside).1
  have allKept : paragraphs.filter (!·.isEmpty) = paragraphs :=
    List.filter_eq_self.mpr fun paragraph isOne => by simpa using nonempty paragraph isOne
  rw [quoteParagraphs, trimmed, divided, allKept]
  rfl

/-- A gap in front of the first paragraph does not count. -/
theorem quoteParagraphs_nil_cons
    (lines : List Line) :
    quoteParagraphs ([] :: lines) = quoteParagraphs lines := by
  simp [quoteParagraphs, groupsBetweenEmpty, Text.trim, Text.trimStart, Text.trimEnd]

/-! ## The lines of a quote -/

/-- A quoted line ends with something other than a blank. -/
theorem finished_quoteLine
    {text : Text}
    (phrase : Text.Phrase text) :
    Text.Finished (quoteLine text) := by
  cases text with
  | nil =>
      exact ⟨by decide, '>', rfl, by decide⟩
  | cons character rest =>
      have mark : '\n' ∉ ['>', ' '] := by
        decide
      exact (phrase.finished (by simp)).prepend mark

theorem head?_quoteLine
    (text : Text) :
    (quoteLine text).head? = some '>' := by
  fun_cases quoteLine text with
  | case1 | case2 =>
      rfl

/-- A quoted line has no blanks around it. -/
theorem phrase_quoteLine
    {text : Text}
    (phrase : Text.Phrase text) :
    Text.Phrase (quoteLine text) := by
  apply (finished_quoteLine phrase).phrase
  intro first isFirst
  cases (head?_quoteLine text).symm.trans isFirst
  decide

/-- A quoted line is told to quote its text. -/
theorem of_quoteLine
    {text : Text}
    (phrase : Text.Phrase text) :
    LineKind.of (quoteLine text) = .quote text := by
  rw [LineKind.of, (phrase_quoteLine phrase).trim_eq]
  fun_cases quoteLine text with
  | case1 isNil =>
      rw [List.isEmpty_iff.mp isNil]
      rfl
  | case2 =>
      rfl

/-- The word of a callout in brackets has no blanks around it. -/
theorem Callout.IsNamedBy.phrase_bracketed
    {callout : Callout}
    {word : Text}
    (named : callout.IsNamedBy word) :
    Text.Phrase (bracketed word) where
  oneLine := by
    have notLetter : '\n' ∉ word := fun member =>
      absurd (named.isAlpha _ member) (by decide)
    simp [bracketed, notLetter]
  front := by
    rintro first ⟨⟩
    decide
  back := by
    intro last isLast
    have isBracket : last = ']' := by
      simpa [bracketed, List.getLast?_cons] using isLast.symm
    rw [isBracket]
    decide

namespace QuoteSource

variable
    {quote : QuoteSource}

/-- What stands behind a mark is a phrase. -/
theorem WellFormed.phrase
    (wellFormed : quote.WellFormed)
    {text : Text}
    (member : text ∈ quote.texts) :
    Text.Phrase text := by
  rcases List.mem_append.mp member with isMarker | inParagraphs
  · obtain ⟨marker, isNamed, rfl⟩ := Option.map_eq_some_iff.mp (Option.mem_toList.mp isMarker)
    exact (wellFormed.named marker isNamed).phrase_bracketed
  · exact phrase_of_mem_intercalate
      (fun paragraph isOne line inside => (wellFormed.phrases paragraph isOne line inside).2)
      inParagraphs

/-- Paragraphs begin with their first line. -/
theorem exists_intercalate_eq_cons
    {paragraphs : List (List Line)}
    (nonempty : ∀ paragraph ∈ paragraphs, paragraph ≠ [])
    {first : Line}
    (isFirst : first ∈ paragraphs.flatten.head?) :
    ∃ others, [[]].intercalate paragraphs = first :: others := by
  cases paragraphs with
  | nil =>
      cases isFirst
  | cons paragraph paragraphs =>
      cases paragraph with
      | nil =>
          exact (nonempty [] List.mem_cons_self rfl).elim
      | cons line lines =>
          cases isFirst
          exact ⟨_, List.intercalate_cons_cons_left⟩

/-- There is a first line, and reading it finds the admonition and all paragraphs. -/
theorem WellFormed.exists_ofQuote
    (wellFormed : quote.WellFormed) :
    ∃ first others, quote.texts = first :: others ∧
      Block.ofQuote first others =
        .blockquote (quote.marker?.map Prod.fst)
          (quote.paragraphs.map fun paragraph => Span.read ([' '].intercalate paragraph)) := by
  obtain ⟨named, nonempty, phrases, plain⟩ := wellFormed
  have paragraphsRead := quoteParagraphs_intercalate nonempty phrases
  obtain ⟨marker?, paragraphs⟩ := quote
  cases marker? with
  | some marker =>
      -- Behind the name nothing is left of the first text, which makes a gap in front.
      refine ⟨bracketed marker.2, [[]].intercalate paragraphs, rfl, ?_⟩
      rw [Block.ofQuote, Callout.marker?_bracketed (named marker rfl)]
      simp only [quoteParagraphs_nil_cons, paragraphsRead, Option.map_some]
  | none =>
      obtain ⟨first, isFirst, noName⟩ := plain rfl
      obtain ⟨others, shape⟩ := exists_intercalate_eq_cons nonempty isFirst
      refine ⟨first, others, shape, ?_⟩
      rw [Block.ofQuote, Callout.marker?_eq_none noName]
      simp only [← shape, paragraphsRead, Option.map_none]

end QuoteSource

/-- A quote is read back as it was written: its admonition, and its paragraphs in order. -/
theorem Block.read_lines_quote
    {quote : QuoteSource}
    (wellFormed : quote.WellFormed) :
    read (Text.joinLines quote.lines) =
      [.blockquote (quote.marker?.map Prod.fst)
        (quote.paragraphs.map fun paragraph => Span.read ([' '].intercalate paragraph))] := by
  obtain ⟨first, others, shape, isQuote⟩ := wellFormed.exists_ofQuote
  have phrases : ∀ text ∈ first :: others, Text.Phrase text :=
    fun text member => wellFormed.phrase (shape ▸ member)
  obtain ⟨firstPhrase, otherPhrases⟩ := List.forall_mem_cons.mp phrases
  have finished : ∀ line ∈ quoteLine first :: others.map quoteLine, Text.Finished line := by
    rw [← List.map_cons, List.forall_mem_map]
    exact fun text member => finished_quoteLine (phrases text member)
  have contents : takeLeading quoted? (others.map quoteLine) = (others, []) := by
    have readBack : ∀ text ∈ others, quoted? (quoteLine text) = some (id text) := by
      intro text member
      simp only [quoted?, of_quoteLine (otherPhrases text member), id]
    simpa using takeLeading_map readBack
  have taken :
      take (quoteLine first) (others.map quoteLine) =
        (some (.blockquote (quote.marker?.map Prod.fst)
          (quote.paragraphs.map fun paragraph => Span.read ([' '].intercalate paragraph))), []) := by
    simp only [take, of_quoteLine firstPhrase, contents, isQuote]
  calc
    read (Text.joinLines quote.lines)
        = read (Text.joinLines (quoteLine first :: others.map quoteLine)) := by
      rw [QuoteSource.lines, shape, List.map_cons]
    _ = ofLines (quoteLine first :: others.map quoteLine) :=
      read_joinLines (phrase_quoteLine firstPhrase).front finished
    _ = [.blockquote (quote.marker?.map Prod.fst)
          (quote.paragraphs.map fun paragraph => Span.read ([' '].intercalate paragraph))] :=
      ofLines_eq_singleton taken

/-- A name in mixed letters counts, and a line may look like a quote, an item or another name. -/
theorem Block.read_lines_quote_tip :
    let quote : QuoteSource :=
      ⟨some (.tip, ['t', 'I', 'P']),
        [[['>', ' ', 'a'], ['-', ' ', 'b']], [['[', '!', 'N', 'O', 'T', 'E', ']']]]⟩
    quote.WellFormed ∧
      read (Text.joinLines quote.lines) =
        [.blockquote (quote.marker?.map Prod.fst)
          (quote.paragraphs.map fun paragraph => Span.read ([' '].intercalate paragraph))] := by
  intro quote
  have named : ∀ marker ∈ quote.marker?, marker.1.IsNamedBy marker.2 := by
    rintro marker ⟨⟩
    decide
  have wellFormed : quote.WellFormed :=
    ⟨named, by decide, by decide, nofun⟩
  exact ⟨wellFormed, read_lines_quote wellFormed⟩

end Guidebook
