import Guidebook.Proofs.Code.Claims
import Mathlib.Data.List.Chain

namespace Guidebook

/-!
# Dividing a text by rules

A text is divided by the first rule at its claims.  Each claimed part is a
fragment of the rule's kind, and each gap between claims is divided by the
other rules as a text of its own.  The division keeps all of the text, has no
empty fragment and no two plain fragments next to each other, and what an
earlier rule has claimed is left alone by the later ones.
-/

namespace Text

/-- A part of a text and what comes behind it make what comes from its start on. -/
theorem slice_append_drop
    (text : Text)
    {start stop : Nat}
    (forwards : start ≤ stop) :
    text.slice start stop ++ text.drop stop = text.drop start := by
  have behind : text.drop stop = (text.drop start).drop (stop - start) := by
    rw [List.drop_drop, Nat.add_sub_cancel' forwards]
  rw [slice, behind, List.take_append_drop]

/-- A part between two places is as long as these are apart. -/
theorem length_slice
    (text : Text)
    (start : Nat)
    {stop : Nat}
    (within : stop ≤ text.length) :
    (text.slice start stop).length = stop - start := by
  rw [slice, List.length_take, List.length_drop]
  exact Nat.min_eq_left (Nat.sub_le_sub_right within start)

end Text

/-- Of two neighbouring fragments one at least is classified. -/
def Fragment.NotBothPlain (first second : Fragment) : Prop :=
  first.kind = none → second.kind ≠ none

namespace Rule

/-- A text cut at claims of a kind, from a place on, each gap becoming what is given. -/
def cutAt
    (kind : TokenKind)
    (gap : Text → List Fragment)
    (text : Text)
    (place : Nat) :
    List Extent → List Fragment
  | [] => gap (text.drop place)
  | claim :: later =>
      gap (text.slice place claim.start) ++
        Fragment.classified kind (text.slice claim.start claim.stop) ::
          cutAt kind gap text claim.stop later

/-- A text cut at the claims of a rule that are not empty, each gap becoming what is given. -/
def cut (rule : Rule) (gap : Text → List Fragment) (text : Text) : List Fragment :=
  cutAt rule.kind gap text 0 ((rule.claims text).filter (!·.isEmpty))

/--
A text divided by rules: the first one cuts it, and the others divide the gaps.
Without rules all of the text is plain.
-/
def divide : List Rule → Text → List Fragment
  | [], text => if text.isEmpty then [] else [Fragment.plain text]
  | rule :: later, text => rule.cut (divide later) text

section CutAt

variable
    {kind : TokenKind}
    {gap : Text → List Fragment}
    {text : Text}
    {place : Nat}
    {claims : List Extent}

/-- Cutting at claims that are in order keeps all of the text. -/
theorem flatMap_text_cutAt
    (keeps : ∀ part, (gap part).flatMap Fragment.text = part)
    (inOrder : InOrder place text.length claims) :
    (cutAt kind gap text place claims).flatMap Fragment.text = text.drop place := by
  induction claims generalizing place with
  | nil =>
      exact keeps (text.drop place)
  | cons claim later inductionHypothesis =>
      cases inOrder with
      | cons startsLater forwards laterInOrder =>
          rw [cutAt, List.flatMap_append, List.flatMap_cons, keeps,
            inductionHypothesis laterInOrder]
          have claimed := text.slice_append_drop forwards
          have before := text.slice_append_drop startsLater
          rw [← before, ← claimed]
          rfl

/-- Cutting at claims that are not empty leaves no empty fragment. -/
theorem text_ne_nil_of_mem_cutAt
    (nonempty : ∀ part, ∀ fragment ∈ gap part, fragment.text ≠ [])
    (claimed : ∀ claim ∈ claims, claim.start < claim.stop)
    (inOrder : InOrder place text.length claims)
    {fragment : Fragment}
    (member : fragment ∈ cutAt kind gap text place claims) :
    fragment.text ≠ [] := by
  induction claims generalizing place with
  | nil =>
      exact nonempty (text.drop place) fragment member
  | cons claim later inductionHypothesis =>
      cases inOrder with
      | cons _ _ laterInOrder =>
          rcases List.mem_append.mp member with inGap | behindGap
          · exact nonempty _ fragment inGap
          · rcases List.mem_cons.mp behindGap with isClaim | isLater
            · rw [isClaim]
              have long : claim.start < claim.stop := claimed claim (by simp)
              have within : claim.stop ≤ text.length := laterInOrder.le
              apply List.ne_nil_of_length_pos
              show 0 < (text.slice claim.start claim.stop).length
              rw [text.length_slice claim.start within]
              exact Nat.sub_pos_of_lt long
            · exact inductionHypothesis
                (fun other later => claimed other (by simp [later]))
                laterInOrder isLater

/-- A claim stands between any two gaps, so no plain fragments come together. -/
theorem isChain_cutAt
    (apart : ∀ part, (gap part).IsChain Fragment.NotBothPlain) :
    (cutAt kind gap text place claims).IsChain Fragment.NotBothPlain := by
  induction claims generalizing place with
  | nil =>
      exact apart (text.drop place)
  | cons claim later inductionHypothesis =>
      refine List.isChain_append.mpr ⟨apart _, List.isChain_cons.mpr ⟨?_, inductionHypothesis⟩, ?_⟩
      · intro next _ isPlain
        simp [Fragment.classified] at isPlain
      · intro last _ first isFirst _
        rw [List.head?_cons, Option.mem_some_iff] at isFirst
        rw [← isFirst]
        simp [Fragment.classified]

/-- What is done to every fragment of a cut that leaves claims alone is done to the gaps. -/
theorem flatMap_cutAt
    {refine : Fragment → List Fragment}
    (leaves : ∀ part, refine (Fragment.classified kind part) = [Fragment.classified kind part]) :
    (cutAt kind gap text place claims).flatMap refine =
      cutAt kind (fun part => (gap part).flatMap refine) text place claims := by
  induction claims generalizing place with
  | nil =>
      rfl
  | cons claim later inductionHypothesis =>
      rw [cutAt, cutAt, List.flatMap_append, List.flatMap_cons, leaves, inductionHypothesis]
      rfl

end CutAt

/-- The claims that are not empty follow each other inside the text. -/
theorem inOrder_filter_claims
    (rule : Rule)
    (text : Text) :
    InOrder 0 text.length ((rule.claims text).filter (!·.isEmpty)) :=
  (rule.inOrder_claims text).filter _

@[simp] theorem cut_nil
    (rule : Rule)
    (gap : Text → List Fragment) :
    rule.cut gap [] = gap [] := by
  rw [cut, claims_nil]
  rfl

@[simp] theorem divide_nil
    (rules : List Rule) :
    divide rules [] = [] := by
  induction rules with
  | nil =>
      rfl
  | cons rule later inductionHypothesis =>
      rw [divide, cut_nil, inductionHypothesis]

/-- The fragments of a division, one after the other, are the text. -/
@[simp] theorem flatMap_text_divide
    (rules : List Rule)
    (text : Text) :
    (divide rules text).flatMap Fragment.text = text := by
  induction rules generalizing text with
  | nil =>
      cases text with
      | nil =>
          rfl
      | cons character rest =>
          simp [divide, Fragment.plain]
  | cons rule later inductionHypothesis =>
      rw [divide, cut, flatMap_text_cutAt inductionHypothesis (rule.inOrder_filter_claims text),
        List.drop_zero]

/-- Dividing leaves no empty fragment. -/
theorem text_ne_nil_of_mem_divide
    {rules : List Rule}
    {text : Text}
    {fragment : Fragment}
    (member : fragment ∈ divide rules text) :
    fragment.text ≠ [] := by
  induction rules generalizing text fragment with
  | nil =>
      cases text with
      | nil =>
          cases member
      | cons character rest =>
          simp only [divide, List.isEmpty_cons, Bool.false_eq_true, ↓reduceIte,
            List.mem_singleton] at member
          rw [member]
          exact List.cons_ne_nil character rest
  | cons rule later inductionHypothesis =>
      refine text_ne_nil_of_mem_cutAt (fun _ _ => inductionHypothesis) ?_
        (rule.inOrder_filter_claims text) member
      intro claim isKept
      have notEmpty := (List.mem_filter.mp isKept).2
      simpa [Extent.isEmpty] using notEmpty

/-- Dividing leaves no two plain fragments next to each other. -/
theorem isChain_divide
    (rules : List Rule)
    (text : Text) :
    (divide rules text).IsChain Fragment.NotBothPlain := by
  induction rules generalizing text with
  | nil =>
      rw [divide]
      split
      · exact .nil
      · exact .singleton _
  | cons rule later inductionHypothesis =>
      exact isChain_cutAt inductionHypothesis

/-- What later rules make of a fragment: they divide it if it is plain, else leave it alone. -/
def divideFragment (rules : List Rule) (fragment : Fragment) : List Fragment :=
  match fragment.kind with
  | none => divide rules fragment.text
  | some _ => [fragment]

/-- What a fragment is divided into makes up its text. -/
theorem flatMap_text_divideFragment
    (rules : List Rule)
    (fragment : Fragment) :
    (divideFragment rules fragment).flatMap Fragment.text = fragment.text := by
  rw [divideFragment]
  split
  · exact flatMap_text_divide rules fragment.text
  · exact List.flatMap_singleton _ _

/-- Further rules only ever divide what the earlier ones have left plain. -/
theorem divide_append
    (earlier later : List Rule)
    (text : Text) :
    divide (earlier ++ later) text = (divide earlier text).flatMap (divideFragment later) := by
  induction earlier generalizing text with
  | nil =>
      cases text with
      | nil =>
          exact divide_nil later
      | cons character rest =>
          simp [divide, divideFragment, Fragment.plain]
  | cons rule earlier inductionHypothesis =>
      rw [List.cons_append, divide, divide, cut, cut, flatMap_cutAt (fun _ => rfl),
        funext inductionHypothesis]

end Rule

end Guidebook
