import Guidebook.Proofs.Span.NormalForm
import Guidebook.Proofs.Span.Pieces

namespace Guidebook

/-!
# Filled spans and how deep they nest

Reading puts no emphasis on nothing and makes no code of nothing: delimiters with
nothing between them are dropped, also when what stands between them only turns out
to be nothing once it is read.  Emphasis and links nest as deep as there are levels
to read, since what a span holds is read with one level less.
-/

mutual

/-- No code in a span is empty, and no emphasis in it is put on nothing. -/
def Span.Filled : Span → Prop
  | .text _ => True
  | .bold content => content ≠ [] ∧ Span.FilledAll content
  | .italic content => content ≠ [] ∧ Span.FilledAll content
  | .strikethrough content => content ≠ [] ∧ Span.FilledAll content
  | .code content => content ≠ ""
  | .link _ content => Span.FilledAll content
  | .image _ _ => True

/-- No code in some spans is empty, and no emphasis in them is put on nothing. -/
def Span.FilledAll : List Span → Prop
  | [] => True
  | span :: rest => span.Filled ∧ Span.FilledAll rest

end

mutual

/-- The most emphases and links that stand one inside the other in a span. -/
def Span.depth : Span → Nat
  | .text _ => 0
  | .bold content => Span.depthAll content + 1
  | .italic content => Span.depthAll content + 1
  | .strikethrough content => Span.depthAll content + 1
  | .code _ => 0
  | .link _ content => Span.depthAll content + 1
  | .image _ _ => 0

/-- The most emphases and links that stand one inside the other in some spans. -/
def Span.depthAll : List Span → Nat
  | [] => 0
  | span :: rest => max span.depth (Span.depthAll rest)

end

namespace Span

/-- A span that is filled and nests no deeper than so many levels. -/
structure Fits (levels : Nat) (span : Span) : Prop where
  filled : span.Filled
  shallow : span.depth ≤ levels

theorem fits_text
    (levels : Nat)
    (content : String) :
    (text content).Fits levels :=
  ⟨trivial, Nat.zero_le levels⟩

/-- Spans are filled when each of them is. -/
theorem filledAll_iff
    {spans : List Span} :
    FilledAll spans ↔ ∀ span ∈ spans, span.Filled := by
  induction spans with
  | nil =>
      simp [FilledAll]
  | cons span rest inductionHypothesis =>
      rw [FilledAll, List.forall_mem_cons, inductionHypothesis]

theorem depthAll_le_iff
    {levels : Nat}
    {spans : List Span} :
    depthAll spans ≤ levels ↔ ∀ span ∈ spans, span.depth ≤ levels := by
  induction spans with
  | nil =>
      simp [depthAll]
  | cons span rest inductionHypothesis =>
      rw [depthAll, List.forall_mem_cons, Nat.max_le, inductionHypothesis]

/-- Spans that all fit are filled, and none of them nests too deep. -/
theorem Fits.all
    {levels : Nat}
    {spans : List Span}
    (fits : ∀ span ∈ spans, span.Fits levels) :
    FilledAll spans ∧ depthAll spans ≤ levels :=
  ⟨filledAll_iff.mpr fun span member => (fits span member).filled,
    depthAll_le_iff.mpr fun span member => (fits span member).shallow⟩

/-- What is formatted has content, and nests one level deeper than its content. -/
theorem Fits.of_format?
    {levels : Nat}
    {format : List Span → Span}
    (formatFilled : ∀ content, content ≠ [] → FilledAll content → (format content).Filled)
    (formatDepth : ∀ content, (format content).depth = depthAll content + 1)
    {content : List Span}
    (fits : ∀ span ∈ content, span.Fits levels)
    {span : Span}
    (formed : format? format content = some span) :
    span.Fits (levels + 1) := by
  rw [format?, Option.ite_none_left_eq_some, Option.some.injEq] at formed
  obtain ⟨nonempty, rfl⟩ := formed
  obtain ⟨filled, shallow⟩ := Fits.all fits
  constructor
  · exact formatFilled content (by simpa using nonempty) filled
  · rw [formatDepth]
    exact Nat.succ_le_succ shallow

end Span

/-- A captured stretch nests one level deeper than what is inside it. -/
theorem Capture.fits_of_span?
    {levels : Nat}
    {inside : Text → List Span}
    (insideFits : ∀ text, ∀ span ∈ inside text, span.Fits levels)
    {capture : Capture}
    {span : Span}
    (formed : capture.span? inside = some span) :
    span.Fits (levels + 1) := by
  cases capture with
  | image alt url =>
      cases formed
      exact ⟨trivial, Nat.zero_le _⟩
  | link label url =>
      cases formed
      obtain ⟨filled, shallow⟩ := Span.Fits.all (insideFits label)
      exact ⟨filled, Nat.succ_le_succ shallow⟩
  | code content =>
      rw [span?, Option.ite_none_left_eq_some, Option.some.injEq] at formed
      obtain ⟨nonempty, rfl⟩ := formed
      refine ⟨?_, Nat.zero_le _⟩
      rw [Span.Filled, ne_eq, String.ofList_eq_empty_iff]
      simpa using nonempty
  | bold content =>
      exact Span.Fits.of_format? (fun _ => And.intro) (fun _ => rfl) (insideFits content) formed
  | italic content =>
      exact Span.Fits.of_format? (fun _ => And.intro) (fun _ => rfl) (insideFits content) formed
  | strikethrough content =>
      exact Span.Fits.of_format? (fun _ => And.intro) (fun _ => rfl) (insideFits content) formed

namespace Span

/-- What is read with so many levels ahead is filled and nests no deeper than these. -/
theorem fits_of_mem_readNested
    (levels : Nat)
    (text : Text) :
    ∀ span ∈ readNested levels text, span.Fits levels := by
  induction levels generalizing text with
  | zero =>
      rw [readNested, literal]
      split
      · simp
      · exact List.forall_mem_singleton.mpr (fits_text 0 _)
  | succ levels inductionHypothesis =>
      rw [readNested, List.forall_mem_map]
      exact Piece.forall_mem_foldr_join (Fits (levels + 1)) (fits_text (levels + 1))
        fun _ _ _ => Capture.fits_of_span? inductionHypothesis

/--
Spans that are read are in normal form: at every level no text is empty and no two
texts stand side by side, no code is empty, and no emphasis is put on nothing.
Emphasis and links nest no deeper than formatting may.
-/
theorem read_normal_filled_shallow
    (text : Text) :
    NormalAll (read text) ∧ FilledAll (read text) ∧ depthAll (read text) ≤ maxNesting :=
  ⟨normalAll_read text, Fits.all (fits_of_mem_readNested maxNesting text)⟩

/-- Bold that turns out to hold nothing is dropped, and the texts around it are one. -/
example : read ['a', '*', '*', '\x60', '\x60', '*', '*', 'b'] = [.text "ab"] := by
  cbv

end Span

end Guidebook
