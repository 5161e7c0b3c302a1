import Guidebook.Proofs.Code.Extents
import Mathlib.Data.List.TakeWhile

namespace Guidebook

/-!
# Regular expressions

A regular expression describes texts by the texts that they are made of.  How much
of a text a pattern takes, and what stands around that, is no part of it: where a
pattern fits, what it takes is described by an expression of the same shape.
-/

/-- A regular expression over classes of characters. -/
inductive Expression where
  /-- No text. -/
  | nothing
  /-- One character of a class. -/
  | one (accepts : Char → Bool)
  /-- One of some words. -/
  | words (choices : List String)
  /-- One text and then another one. -/
  | sequence (first second : Expression)
  /-- One text or another one. -/
  | choice (first second : Expression)
  /-- Any number of texts, one behind the other. -/
  | star (part : Expression)

namespace Expression

instance : Append Expression where
  append := sequence

instance : OrElse Expression where
  orElse first second := choice first (second ())

/-- The texts that an expression describes. -/
def Describes : Expression → Text → Prop
  | nothing, text => text = []
  | one accepts, text => ∃ character, accepts character ∧ text = [character]
  | words choices, text => String.ofList text ∈ choices
  | sequence first second, text =>
      ∃ front back, first.Describes front ∧ second.Describes back ∧ text = front ++ back
  | choice first second, text => first.Describes text ∨ second.Describes text
  | star part, text =>
      ∃ pieces : List Text, (∀ piece ∈ pieces, part.Describes piece) ∧ text = pieces.flatten

/-- One given character. -/
def character (expected : Char) : Expression :=
  one (· == expected)

/-- A text or nothing. -/
def optional (part : Expression) : Expression :=
  part <|> nothing

/-- One text or more. -/
def plus (part : Expression) : Expression :=
  part ++ star part

/-- So many texts at most. -/
def upTo (part : Expression) : Nat → Expression
  | 0 => nothing
  | count + 1 => optional (part ++ upTo part count)

variable
    {first second : Expression}
    {accepts : Char → Bool}
    {text : Text}

/-- An optional expression describes what its part describes, and nothing. -/
theorem describes_optional_iff :
    (optional first).Describes text ↔ first.Describes text ∨ text = [] :=
  Iff.rfl

/-- A character describes itself alone. -/
theorem describes_character_iff
    {expected : Char} :
    (character expected).Describes text ↔ text = [expected] := by
  constructor
  · rintro ⟨found, isExpected, rfl⟩
    rw [beq_iff_eq.mp isExpected]
  · rintro rfl
    exact ⟨expected, beq_self_eq_true expected, rfl⟩

/-- Texts that are described by two expressions make one that is described by both in a row. -/
theorem Describes.sequence
    {front back : Text}
    (isFirst : first.Describes front)
    (isSecond : second.Describes back) :
    (first ++ second).Describes (front ++ back) :=
  ⟨front, back, isFirst, isSecond, rfl⟩

theorem describes_optional_nil
    (part : Expression) :
    (optional part).Describes [] :=
  .inr rfl

/-! What may be left out adds nothing where it is left out. -/

/-- An optional expression in front may be left out. -/
theorem Describes.optional_sequence
    (isSecond : second.Describes text) :
    (Expression.optional first ++ second).Describes text :=
  ⟨[], text, describes_optional_nil first, isSecond, rfl⟩

theorem Describes.sequence_optional
    (isFirst : first.Describes text) :
    (first ++ Expression.optional second).Describes text :=
  ⟨text, [], isFirst, describes_optional_nil second, (List.append_nil text).symm⟩

/-- One more text may come in front of any number of them. -/
theorem Describes.star_cons
    {piece rest : Text}
    (isFirst : first.Describes piece)
    (isRest : (star first ++ second).Describes rest) :
    (star first ++ second).Describes (piece ++ rest) := by
  obtain ⟨_, back, ⟨pieces, arePieces, rfl⟩, isSecond, rfl⟩ := isRest
  refine ⟨(piece :: pieces).flatten, back, ⟨piece :: pieces, ?_, rfl⟩, isSecond, ?_⟩
  · exact List.forall_mem_cons.mpr ⟨isFirst, arePieces⟩
  · rw [List.flatten_cons, List.append_assoc]

/-- What is repeated any number of times may be left out. -/
theorem Describes.star_nil
    (isSecond : second.Describes text) :
    (star first ++ second).Describes text :=
  ⟨[], text, ⟨[], List.forall_mem_nil _, rfl⟩, isSecond, rfl⟩

/-- Any number of characters of a class is a text of that class. -/
theorem describes_star_one_iff :
    (star (one accepts)).Describes text ↔ ∀ character ∈ text, accepts character := by
  constructor
  · rintro ⟨pieces, areOnes, rfl⟩ found member
    obtain ⟨piece, isPiece, inPiece⟩ := List.mem_flatten.mp member
    obtain ⟨other, accepted, rfl⟩ := areOnes piece isPiece
    rw [List.mem_singleton.mp inPiece]
    exact accepted
  · intro accepted
    refine ⟨text.map fun character => [character], ?_, ?_⟩
    · intro piece isPiece
      obtain ⟨found, member, rfl⟩ := List.mem_map.mp isPiece
      exact ⟨found, accepted found member, rfl⟩
    · rw [← List.flatMap_def, List.flatMap_singleton']

/-- One character of a class or more is a text of that class that is not empty. -/
theorem describes_plus_one_iff :
    (plus (one accepts)).Describes text ↔
      text ≠ [] ∧ ∀ character ∈ text, accepts character := by
  constructor
  · rintro ⟨_, rest, ⟨found, accepted, rfl⟩, isRest, rfl⟩
    exact ⟨List.cons_ne_nil found rest,
      List.forall_mem_cons.mpr ⟨accepted, describes_star_one_iff.mp isRest⟩⟩
  · rintro ⟨nonempty, accepted⟩
    obtain ⟨found, rest, rfl⟩ := List.exists_cons_of_ne_nil nonempty
    obtain ⟨foundAccepted, restAccepted⟩ := List.forall_mem_cons.mp accepted
    exact ⟨[found], rest, ⟨found, foundAccepted, rfl⟩,
      describes_star_one_iff.mpr restAccepted, rfl⟩

/-- At most so many characters of a class are a short text of that class. -/
theorem describes_upTo_one_iff
    {most : Nat} :
    (upTo (one accepts) most).Describes text ↔
      text.length ≤ most ∧ ∀ character ∈ text, accepts character := by
  induction most generalizing text with
  | zero =>
      rw [Nat.le_zero_eq, List.length_eq_zero_iff]
      constructor
      · rintro rfl
        exact ⟨rfl, List.forall_mem_nil _⟩
      · exact And.left
  | succ most inductionHypothesis =>
      rw [upTo, describes_optional_iff]
      constructor
      · rintro (⟨_, rest, ⟨found, accepted, rfl⟩, isRest, rfl⟩ | rfl)
        · obtain ⟨short, restAccepted⟩ := inductionHypothesis.mp isRest
          exact ⟨Nat.succ_le_succ short, List.forall_mem_cons.mpr ⟨accepted, restAccepted⟩⟩
        · exact ⟨Nat.zero_le _, List.forall_mem_nil _⟩
      · rintro ⟨short, accepted⟩
        cases text with
        | nil =>
            exact .inr rfl
        | cons found rest =>
            obtain ⟨foundAccepted, restAccepted⟩ := List.forall_mem_cons.mp accepted
            exact .inl ⟨[found], rest, ⟨found, foundAccepted, rfl⟩,
              inductionHypothesis.mpr ⟨Nat.le_of_succ_le_succ short, restAccepted⟩, rfl⟩

/-! ## What patterns take -/

/-- Whatever the pattern takes of a text is described by the expression. -/
def Covers (expression : Expression) (pattern : Pattern) : Prop :=
  ∀ ⦃before : Option Char⦄ ⦃text : Text⦄ ⦃extent : Nat⦄,
    pattern.extent? before text = some extent → expression.Describes (text.take extent)

end Expression

open Expression

/-- What a run takes is made of characters of its class. -/
theorem accepts_of_mem_take_runExtent
    {accepts : Char → Bool}
    {text : Text}
    {character : Char}
    (member : character ∈ text.take (runExtent accepts text)) :
    accepts character := by
  rw [runExtent, ← List.takeWhile_eq_take_findIdx_not] at member
  exact List.mem_takeWhile_imp member

namespace Pattern

variable
    {first second : Pattern}
    {expression other : Expression}

/-- A wider expression covers what a narrower one does. -/
theorem covers_of_imp
    (covers : expression.Covers first)
    (weaker : ∀ text, expression.Describes text → other.Describes text) :
    other.Covers first := by
  intro before text extent fits
  exact weaker _ (covers fits)

/-- A single character of a class is described as one. -/
theorem covers_one
    (accepts : Char → Bool) :
    (Expression.one accepts).Covers (one accepts) := by
  intro before text extent fits
  obtain ⟨found, rest, rfl, accepted, rfl⟩ := extent?_one_eq_some_iff.mp fits
  exact ⟨found, accepted, rfl⟩

theorem covers_character
    (expected : Char) :
    (Expression.character expected).Covers (character expected) :=
  covers_one _

theorem covers_any
    (accepts : Char → Bool) :
    (star (.one accepts)).Covers (any accepts) := by
  intro before text extent fits
  rw [extent?, Option.some.injEq] at fits
  rw [← fits]
  exact describes_star_one_iff.mpr fun _ => accepts_of_mem_take_runExtent

/-- A run that a pattern takes starts with the text. -/
theorem take_runExtent_ne_nil
    {accepts : Char → Bool}
    {text : Text}
    (started : 0 < runExtent accepts text) :
    text.take (runExtent accepts text) ≠ [] := by
  obtain ⟨found, rest, rfl, -⟩ := exists_of_runExtent_pos started
  exact fun isNil => Nat.ne_of_gt started (List.take_eq_nil_iff.mp isNil |>.resolve_right nofun)

/-- A run takes one character of its class or more. -/
theorem covers_run
    (accepts : Char → Bool) :
    (plus (.one accepts)).Covers (run accepts) := by
  intro before text extent fits
  obtain ⟨rfl, started⟩ := extent?_run_eq_some_iff.mp fits
  exact describes_plus_one_iff.mpr
    ⟨take_runExtent_ne_nil started, fun _ => accepts_of_mem_take_runExtent⟩

/-- A run of at least one and so many more characters at most. -/
theorem covers_shortRun
    (accepts : Char → Bool)
    (more : Nat) :
    (Expression.one accepts ++ upTo (.one accepts) more).Covers (shortRun accepts (more + 1)) := by
  intro before text extent fits
  rw [extent?, Option.ite_none_left_eq_some, not_or, Option.some.injEq] at fits
  obtain ⟨⟨started, short⟩, rfl⟩ := fits
  have nonempty := take_runExtent_ne_nil (Nat.pos_of_ne_zero started)
  have accepted : ∀ found ∈ text.take (runExtent accepts text), accepts found :=
    fun _ => accepts_of_mem_take_runExtent
  have isShort : (text.take (runExtent accepts text)).length ≤ more + 1 :=
    Nat.le_trans (List.length_take_le _ _) (Nat.le_of_not_lt short)
  obtain ⟨found, rest, shape⟩ := List.exists_cons_of_ne_nil nonempty
  rw [shape] at accepted isShort ⊢
  obtain ⟨foundAccepted, restAccepted⟩ := List.forall_mem_cons.mp accepted
  exact ⟨[found], rest, ⟨found, foundAccepted, rfl⟩,
    describes_upTo_one_iff.mpr ⟨Nat.le_of_succ_le_succ isShort, restAccepted⟩, rfl⟩

/-- A word of a list is described by the list. -/
theorem covers_word
    (choices : List String) :
    (words choices).Covers (word choices) := by
  intro before text extent fits
  rw [extent?, Option.ite_none_right_eq_some, Option.some.injEq] at fits
  obtain ⟨isChoice, rfl⟩ := fits
  exact List.contains_iff_mem.mp isChoice

/-- A word boundary takes nothing. -/
theorem covers_boundary :
    nothing.Covers boundary := by
  intro before text extent fits
  rw [extent?, Option.ite_none_right_eq_some, Option.some.injEq] at fits
  obtain ⟨-, rfl⟩ := fits
  exact List.take_zero

/-- A sequence takes what is described by its expressions in a row. -/
theorem covers_sequence
    (firstCovers : expression.Covers first)
    (secondCovers : other.Covers second) :
    (expression ++ other).Covers (first ++ second) := by
  intro before text extent fits
  obtain ⟨start, rest, firstFits, secondFits, rfl⟩ := extent?_sequence_eq_some_iff.mp fits
  rw [List.take_add]
  exact (firstCovers firstFits).sequence (secondCovers secondFits)

/-- A choice takes what is described by one of its expressions. -/
theorem covers_choice
    (firstCovers : expression.Covers first)
    (secondCovers : other.Covers second) :
    (expression <|> other).Covers (first <|> second) := by
  intro before text extent fits
  rcases extent?_choice_eq_some_iff.mp fits with isFirst | ⟨-, isSecond⟩
  · exact .inl (firstCovers isFirst)
  · exact .inr (secondCovers isSecond)

/-! An end of a word adds nothing to what is taken. -/

/-- A word boundary in front does not change what is taken. -/
theorem covers_boundary_sequence
    (covers : expression.Covers second) :
    expression.Covers (boundary ++ second) := by
  refine covers_of_imp (covers_sequence covers_boundary covers) ?_
  rintro _ ⟨_, back, rfl, isSecond, rfl⟩
  exact isSecond

theorem covers_sequence_boundary
    (covers : expression.Covers first) :
    expression.Covers (first ++ boundary) := by
  refine covers_of_imp (covers_sequence covers covers_boundary) ?_
  rintro _ ⟨front, _, isFirst, rfl, rfl⟩
  rw [List.append_nil]
  exact isFirst

end Pattern

end Guidebook
