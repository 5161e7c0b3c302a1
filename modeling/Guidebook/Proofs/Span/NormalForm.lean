import Guidebook.Span.Reading

namespace Guidebook

/-!
# The normal form of spans

Spans that are read show every run of text once: no text among them is empty,
and no two texts stand side by side, at whatever depth.
-/

/-- Whether a span is text without formatting. -/
def Span.isText : Span → Bool
  | .text _ => true
  | _ => false

mutual

/-- No text in a span is empty, and none in it stands right behind another one. -/
def Span.Normal : Span → Prop
  | .text content => content ≠ ""
  | .bold content => Span.NormalAll content
  | .italic content => Span.NormalAll content
  | .strikethrough content => Span.NormalAll content
  | .code _ => True
  | .link _ content => Span.NormalAll content
  | .image _ _ => True

/-- No text in or among some spans is empty, and none stands right behind another one. -/
def Span.NormalAll : List Span → Prop
  | [] => True
  | span :: rest =>
      span.Normal ∧ (span.isText → ¬ rest.head?.any Span.isText) ∧ Span.NormalAll rest

end

/-- Literal text is in normal form. -/
theorem Span.normalAll_literal
    (characters : Text) :
    NormalAll (literal characters) := by
  cases characters with
  | nil =>
      trivial
  | cons character rest =>
      simp [literal, NormalAll, Normal]

/-- Formatting alone never makes a text, and it keeps the normal form of what it holds. -/
theorem Capture.normal_of_span?
    {inside : Text → List Span}
    (normalInside : ∀ text, Span.NormalAll (inside text))
    {capture : Capture}
    {span : Span}
    (formed : capture.span? inside = some span) :
    span.Normal ∧ ¬ span.isText := by
  cases capture with
  | image alt url =>
      simp only [span?, Option.some.injEq] at formed
      simp [← formed, Span.Normal, Span.isText]
  | link label url =>
      simp only [span?, Option.some.injEq] at formed
      simp [← formed, Span.Normal, Span.isText, normalInside]
  | code content | bold content | italic content | strikethrough content =>
      simp only [span?, Span.format?, Option.ite_none_left_eq_some, Option.some.injEq] at formed
      simp [← formed.2, Span.Normal, Span.isText, normalInside]

/-- What is read is in normal form, and all its texts come from literal characters. -/
structure Stretch.NormalAll (stretches : List Stretch) : Prop where
  spans :
    Span.NormalAll (stretches.map toSpan)
  formed :
    ∀ span, .formed span ∈ stretches → ¬ span.isText

/-- A literal character joins the text behind it, or is a text of its own. -/
theorem Stretch.NormalAll.consLiteral
    {stretches : List Stretch}
    (normal : NormalAll stretches)
    (character : Char) :
    NormalAll (Stretch.consLiteral character stretches) := by
  cases stretches with
  | nil =>
      exact ⟨by simp [Stretch.consLiteral, toSpan, Span.NormalAll, Span.Normal],
        by simp [Stretch.consLiteral]⟩
  | cons first rest =>
      obtain ⟨⟨firstNormal, apart, restNormal⟩, formed⟩ := normal
      cases first with
      | literal characters =>
          refine ⟨⟨by simp [toSpan, Span.Normal], apart, restNormal⟩, ?_⟩
          intro span member
          exact formed span (by simpa [Stretch.consLiteral] using member)
      | formed span =>
          have notText : ¬ span.isText := formed span (by simp)
          refine ⟨⟨by simp [toSpan, Span.Normal], ?_, firstNormal, apart, restNormal⟩, ?_⟩
          · intro _
            simpa [toSpan] using notText
          · intro other member
            exact formed other (by simpa [Stretch.consLiteral] using member)

/-- A piece in front keeps stretches in normal form. -/
theorem Piece.normalAll_join
    {inside : Text → List Span}
    (normalInside : ∀ text, Span.NormalAll (inside text))
    (piece : Piece)
    {stretches : List Stretch}
    (normal : Stretch.NormalAll stretches) :
    Stretch.NormalAll (piece.join inside stretches) := by
  cases piece with
  | literal character =>
      exact normal.consLiteral character
  | captured capture =>
      rw [join]
      split
      · exact normal
      · next span formed =>
          obtain ⟨spanNormal, notText⟩ := Capture.normal_of_span? normalInside formed
          refine ⟨⟨spanNormal, fun isText => (notText isText).elim, normal.spans⟩, ?_⟩
          intro other member
          rcases List.mem_cons.mp member with isFirst | isLater
          · cases isFirst
            exact notText
          · exact normal.formed other isLater

namespace Span

/-- What is read is in normal form on any level. -/
theorem normalAll_readNested
    (levels : Nat)
    (text : Text) :
    NormalAll (readNested levels text) := by
  induction levels generalizing text with
  | zero =>
      exact normalAll_literal text
  | succ levels inductionHypothesis =>
      have normalPieces
          (pieces : List Piece) :
          Stretch.NormalAll (pieces.foldr (Piece.join (readNested levels)) []) := by
        induction pieces with
        | nil =>
            exact ⟨trivial, by simp⟩
        | cons piece rest restNormal =>
            exact piece.normalAll_join inductionHypothesis restNormal
      exact (normalPieces (Piece.cut [] text)).spans

/-- Spans that are read are in normal form. -/
theorem normalAll_read
    (text : Text) :
    NormalAll (read text) :=
  normalAll_readNested maxNesting text

end Span

end Guidebook
