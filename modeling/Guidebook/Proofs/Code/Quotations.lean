import Guidebook.Proofs.Code.Expression
import Guidebook.Proofs.Code.Parts

namespace Guidebook

/-!
# Quoted texts

A quoted text ends at the first quote that no backslash frees, so that a pattern
takes the same of it whatever stands behind it.  The rule for strings takes just the
texts that the expression for strings describes.
-/

/-- The search for the closing quote goes past any other character. -/
theorem quotedExtent?_cons
    {quote character : Char}
    (noQuote : character ≠ quote)
    (noEscape : character ≠ '\\')
    (rest : Text) :
    quotedExtent? quote (character :: rest) = (quotedExtent? quote rest).map (· + 1) := by
  rw [quotedExtent?, if_neg noQuote, if_neg noEscape]
  · rintro _ rfl
    exact (noEscape rfl).elim
  · rintro _ _ rfl
    exact (noEscape rfl).elim

/-- The search for the closing quote goes past an escape as a whole. -/
theorem quotedExtent?_escape
    (quote : Char)
    {mark : Char}
    (noFeed : mark ≠ '\n')
    (rest : Text) :
    quotedExtent? quote ('\\' :: mark :: rest) = (quotedExtent? quote rest).map (· + 2) := by
  rw [quotedExtent?]
  exact noFeed

/-- The first quote that is not escaped closes a text. -/
theorem quotedExtent?_quote
    {quote : Char}
    (noEscape : quote ≠ '\\')
    (rest : Text) :
    quotedExtent? quote (quote :: rest) = some 1 := by
  rw [quotedExtent?, if_pos rfl]
  · rintro _ rfl
    exact (noEscape rfl).elim
  · rintro _ _ rfl
    exact (noEscape rfl).elim

namespace Expression

/-- A character between quotes, or one that a backslash frees. -/
def quotedPart (quote : Char) : Expression :=
  one (fun character => character != quote && character != '\\') <|>
    (character '\\' ++ one (· != '\n'))

/-- A text between two equal quotes. -/
def quotation (quote : Char) : Expression :=
  character quote ++ (star (quotedPart quote) ++ character quote)

/-- A text in double or single quotes. -/
def string : Expression :=
  quotation '"' <|> quotation '\''

/-- A part of a quoted text is a character or an escape. -/
theorem describes_quotedPart_iff
    {quote : Char}
    {text : Text} :
    (quotedPart quote).Describes text ↔
      (∃ character, character ≠ quote ∧ character ≠ '\\' ∧ text = [character]) ∨
        ∃ mark, mark ≠ '\n' ∧ text = ['\\', mark] := by
  constructor
  · rintro (⟨found, accepted, rfl⟩ | ⟨_, _, ⟨escape, isEscape, rfl⟩, ⟨mark, noFeed, rfl⟩, rfl⟩)
    · rw [Bool.and_eq_true, bne_iff_ne, bne_iff_ne] at accepted
      exact .inl ⟨found, accepted.1, accepted.2, rfl⟩
    · rw [beq_iff_eq.mp isEscape]
      exact .inr ⟨mark, bne_iff_ne.mp noFeed, rfl⟩
  · rintro (⟨found, noQuote, noEscape, rfl⟩ | ⟨mark, noFeed, rfl⟩)
    · refine .inl ⟨found, ?_, rfl⟩
      rw [Bool.and_eq_true, bne_iff_ne, bne_iff_ne]
      exact ⟨noQuote, noEscape⟩
    · exact .inr ⟨['\\'], [mark], ⟨'\\', rfl, rfl⟩, ⟨mark, bne_iff_ne.mpr noFeed, rfl⟩, rfl⟩

/-- What is read from behind a quote on ends with the next one that is not freed. -/
theorem describes_take_quotedExtent?
    {quote : Char}
    {text : Text}
    {extent : Nat}
    (closes : quotedExtent? quote text = some extent) :
    (star (quotedPart quote) ++ character quote).Describes (text.take extent) := by
  fun_induction quotedExtent? quote text generalizing extent with
  | case1 | case2 | case5 =>
      cases closes
  | case3 mark rest noFeed inductionHypothesis =>
      obtain ⟨inner, closesBehind, rfl⟩ := Option.map_eq_some_iff.mp closes
      have isPart : (quotedPart quote).Describes ['\\', mark] :=
        describes_quotedPart_iff.mpr (.inr ⟨mark, noFeed, rfl⟩)
      exact isPart.star_cons (inductionHypothesis closesBehind)
  | case4 =>
      cases closes
      exact Describes.star_nil (describes_character_iff.mpr rfl)
  | case6 found rest _ _ noQuote noEscape inductionHypothesis =>
      obtain ⟨inner, closesBehind, rfl⟩ := Option.map_eq_some_iff.mp closes
      have isPart : (quotedPart quote).Describes [found] :=
        describes_quotedPart_iff.mpr (.inl ⟨found, noQuote, noEscape, rfl⟩)
      exact isPart.star_cons (inductionHypothesis closesBehind)

/-- A quoted text is read up to its closing quote, whatever is behind it. -/
theorem Describes.quotedExtent?_append
    {quote : Char}
    (notEscape : quote ≠ '\\')
    {content : Text}
    (isContent : (star (quotedPart quote) ++ character quote).Describes content)
    (behind : Text) :
    quotedExtent? quote (content ++ behind) = some content.length := by
  obtain ⟨_, _, ⟨pieces, areParts, rfl⟩, isQuote, rfl⟩ := isContent
  rw [describes_character_iff.mp isQuote]
  induction pieces with
  | nil =>
      exact quotedExtent?_quote notEscape behind
  | cons piece pieces inductionHypothesis =>
      obtain ⟨isPart, areParts⟩ := List.forall_mem_cons.mp areParts
      have closes := inductionHypothesis areParts
      rw [List.flatten_cons, List.append_assoc, List.append_assoc]
      rw [List.append_assoc] at closes
      rcases describes_quotedPart_iff.mp isPart with
        ⟨found, noQuote, noEscape, rfl⟩ | ⟨mark, noFeed, rfl⟩
      · rw [List.singleton_append, quotedExtent?_cons noQuote noEscape, closes]
        rfl
      · rw [List.cons_append, List.singleton_append, quotedExtent?_escape quote noFeed, closes]
        rfl

end Expression

open Expression

namespace Pattern

/-- What is taken as a quoted text is described as one. -/
theorem covers_quoted
    (quote : Char) :
    (quotation quote).Covers (quoted quote) := by
  intro before text extent fits
  cases text with
  | nil =>
      cases fits
  | cons first rest =>
      rw [extent?, Option.ite_none_right_eq_some] at fits
      obtain ⟨rfl, inside⟩ := fits
      obtain ⟨inner, closes, rfl⟩ := Option.map_eq_some_iff.mp inside
      exact (describes_character_iff.mpr rfl).sequence (describes_take_quotedExtent? closes)

/-- What is described as a quoted text is taken as one, whatever comes behind. -/
theorem extent?_quoted_append
    {quote : Char}
    (notEscape : quote ≠ '\\')
    {literal : Text}
    (isLiteral : (quotation quote).Describes literal)
    (before : Option Char)
    (behind : Text) :
    (quoted quote).extent? before (literal ++ behind) = some literal.length := by
  obtain ⟨_, content, isQuote, isContent, rfl⟩ := isLiteral
  rw [describes_character_iff.mp isQuote, List.singleton_append, List.cons_append, extent?,
    if_pos rfl, isContent.quotedExtent?_append notEscape]
  rfl

end Pattern

namespace Rule

open Pattern

/-- What is claimed as a string is a text in quotes of one of two kinds. -/
theorem covers_string :
    Expression.string.Covers string.body :=
  covers_choice (covers_quoted '"') (covers_quoted '\'')

/-- A string starts with a quote. -/
theorem opens_string :
    string.body.Opens fun character => character == '"' || character == '\'' :=
  (opens_quoted '"').choice (opens_quoted '\'')

/-- No string starts at a character other than a quote. -/
theorem matchAt?_string_of_ne
    {character : Char}
    (noDouble : character ≠ '"')
    (noSingle : character ≠ '\'')
    (before : Option Char)
    (rest : Text) :
    string.matchAt? before (character :: rest) = none := by
  refine matchAt?_eq_none_of_opens rfl opens_string ?_ before rest
  rw [beq_false_of_ne noDouble, beq_false_of_ne noSingle]
  rfl

theorem extent?_string_append
    {literal : Text}
    (isLiteral : Expression.string.Describes literal)
    (before : Option Char)
    (behind : Text) :
    string.body.extent? before (literal ++ behind) = some literal.length := by
  refine extent?_choice_eq_some_iff.mpr ?_
  rcases isLiteral with isDouble | isSingle
  · exact .inl (extent?_quoted_append (by decide) isDouble before behind)
  · refine .inr ⟨?_, extent?_quoted_append (by decide) isSingle before behind⟩
    obtain ⟨_, content, isQuote, -, rfl⟩ := isSingle
    rw [describes_character_iff.mp isQuote]
    rfl

/-- The rule for strings takes a whole string literal. -/
theorem takes_string_of_describes
    {literal : Text}
    (isLiteral : Expression.string.Describes literal)
    (behind : Text) :
    string.Takes literal behind := by
  have nonempty : literal ≠ [] := by
    rintro rfl
    rcases isLiteral with ⟨_, _, ⟨_, -, rfl⟩, -, isNil⟩ | ⟨_, _, ⟨_, -, rfl⟩, -, isNil⟩
    · cases isNil
    · cases isNil
  exact takes_of_body rfl rfl nonempty fun before => extent?_string_append isLiteral before behind

end Rule

end Guidebook
