import Guidebook.Proofs.Span.NormalForm
import Guidebook.Proofs.Span.Pieces
import Mathlib.Data.List.Infix

namespace Guidebook

/-!
# What spans hold

A search for fixed marks stops at the first place where they stand, so these marks do
not stand in what it captured.  All that is read from a stretch at any depth is read
from parts of that stretch, and those do not have the marks either.  So no link or
image is found inside a link, and nothing that is struck through inside what is struck
through already.
-/

mutual

/-- A span and all the spans inside it, at any depth. -/
def Span.within : Span → List Span
  | .text content => [.text content]
  | .bold content => .bold content :: Span.withinAll content
  | .italic content => .italic content :: Span.withinAll content
  | .strikethrough content => .strikethrough content :: Span.withinAll content
  | .code content => [.code content]
  | .link url content => .link url content :: Span.withinAll content
  | .image alt url => [.image alt url]

/-- Some spans and all the spans inside them, at any depth. -/
def Span.withinAll : List Span → List Span
  | [] => []
  | span :: rest => span.within ++ Span.withinAll rest

end

namespace Span

/-- Whether a span is a link or an image. -/
def isReference : Span → Bool
  | .link _ _ => true
  | .image _ _ => true
  | _ => false

/-- Whether a span is struck through. -/
def isStrikethrough : Span → Bool
  | .strikethrough _ => true
  | _ => false

/-- What never stands in a span, directly for its texts and at any depth for its content. -/
def Contained : Span → Prop
  | .text _ => True
  | .bold _ => True
  | .italic _ => True
  | .strikethrough content => ∀ span ∈ withinAll content, ¬ span.isStrikethrough
  | .code content => '\x60' ∉ content.toList
  | .link url content => (∀ span ∈ withinAll content, ¬ span.isReference) ∧ ')' ∉ url.toList
  | .image alt url => ¬ [']', '('] <:+: alt.toList ∧ ')' ∉ url.toList

/-- What is within spans is within one of them. -/
theorem mem_withinAll_iff
    {spans : List Span}
    {span : Span} :
    span ∈ withinAll spans ↔ ∃ outer ∈ spans, span ∈ outer.within := by
  induction spans with
  | nil =>
      simp [withinAll]
  | cons first rest inductionHypothesis =>
      simp [withinAll, inductionHypothesis]

end Span

/-! ## Searches stop at the first mark -/

/-- What stands before the first place of a marker does not have the marker. -/
theorem not_infix_of_splitAround?
    {marker text before after : Text}
    (nonempty : marker ≠ [])
    (found : text.splitAround? marker = some (before, after)) :
    ¬ marker <:+: before := by
  induction text generalizing before with
  | nil =>
      simp [Text.splitAround?] at found
  | cons character rest inductionHypothesis =>
      have whole := splitAround?_eq found
      rw [Text.splitAround?] at found
      split at found
      · simp only [Option.some.injEq, Prod.mk.injEq] at found
        rw [← found.1, List.infix_nil]
        exact nonempty
      · next notHere =>
          obtain ⟨⟨before', after'⟩, foundLater, same⟩ := Option.map_eq_some_iff.mp found
          simp only [Prod.mk.injEq] at same
          obtain ⟨rfl, rfl⟩ := same
          rw [List.infix_cons_iff, not_or]
          refine ⟨?_, inductionHypothesis foundLater⟩
          -- A marker at the very start would have been found there.
          intro startsHere
          apply notHere
          rw [List.isPrefixOf_iff_prefix, whole, List.append_assoc]
          exact startsHere.trans (List.prefix_append _ _)

/-- A text in front of the next mark has no such mark. -/
theorem not_mem_of_splitAround?
    {mark : Char}
    {text before after : Text}
    (found : text.splitAround? [mark] = some (before, after)) :
    mark ∉ before := by
  rw [← List.singleton_infix_iff]
  exact not_infix_of_splitAround? (by simp) found

/-- The marks that close a stretch do not stand in it, where they are fixed marks. -/
def Capture.Tight : Capture → Prop
  | .image alt url => ¬ [']', '('] <:+: alt ∧ ')' ∉ url
  | .link label url => ¬ [']', '('] <:+: label ∧ ')' ∉ url
  | .code content => '\x60' ∉ content
  | .bold _ => True
  | .italic _ => True
  | .strikethrough content => ¬ ['~', '~'] <:+: content

/-- A label ends at its first closer, and so does a target. -/
theorem tight_of_splitTarget?
    {text label url rest : Text}
    (found : splitTarget? text = some (label, url, rest)) :
    ¬ [']', '('] <:+: label ∧ ')' ∉ url := by
  unfold splitTarget? at found
  split at found
  · simp at found
  · next foundLabel =>
      obtain ⟨⟨url', rest'⟩, foundUrl, same⟩ := Option.map_eq_some_iff.mp found
      simp only [Prod.mk.injEq] at same
      obtain ⟨rfl, rfl, rfl⟩ := same
      exact ⟨not_infix_of_splitAround? (by simp) foundLabel, not_mem_of_splitAround? foundUrl⟩

/-- A stretch that is closed holds no closer of its own. -/
theorem Opener.tight_of_close
    {opener : Opener}
    {body rest : Text}
    {capture : Capture}
    (closed : opener.close body = .closed capture rest) :
    capture.Tight := by
  cases opener with
  | image | link =>
      simp only [close] at closed
      split at closed
      · simp at closed
      · next found =>
          simp only [Closing.closed.injEq] at closed
          obtain ⟨rfl, rfl⟩ := closed
          exact tight_of_splitTarget? found
  | code =>
      simp only [close] at closed
      split at closed
      · simp at closed
      · next found =>
          simp only [Closing.closed.injEq] at closed
          obtain ⟨rfl, rfl⟩ := closed
          exact not_mem_of_splitAround? found
  | strikethrough =>
      simp only [close] at closed
      split at closed
      · simp at closed
      · next found =>
          simp only [Closing.closed.injEq] at closed
          obtain ⟨rfl, rfl⟩ := closed
          exact not_infix_of_splitAround? (by simp) found
  | bold | italic =>
      simp only [close] at closed
      repeat' split at closed
      all_goals simp only [reduceCtorEq, Closing.closed.injEq] at closed
      all_goals
        obtain ⟨rfl, rfl⟩ := closed
        trivial

/-! ## Where the spans of a text come from -/

namespace Span

/-- A span that was read from a part of a text: a text, or what a captured stretch stands for. -/
inductive ComesFrom (text : Text) : Span → Prop where
  | text
      (content : String) :
      ComesFrom text (.text content)
  | captured
      {levels : Nat}
      {capture : Capture}
      {span : Span} :
      capture.Tight →
      capture.source <:+: text →
      capture.span? (readNested levels) = some span →
      ComesFrom text span

/-- A span that comes from a part of a text comes from the text. -/
theorem ComesFrom.mono
    {part text : Text}
    {span : Span}
    (comes : ComesFrom part span)
    (stands : part <:+: text) :
    ComesFrom text span := by
  cases comes with
  | text content =>
      exact .text content
  | captured tight partStands formed =>
      exact .captured tight (partStands.trans stands) formed

end Span

/-- What stands inside the span of a stretch was read from a part of that stretch. -/
theorem Capture.exists_part_of_mem_within
    {inside : Text → List Span}
    {capture : Capture}
    {span inner : Span}
    (formed : capture.span? inside = some span)
    (member : inner ∈ span.within) :
    inner = span ∨ ∃ part, part <:+: capture.source ∧ inner ∈ Span.withinAll (inside part) := by
  cases capture with
  | image alt url =>
      cases formed
      exact .inl (List.mem_singleton.mp member)
  | link label url =>
      cases formed
      refine (List.mem_cons.mp member).imp_right fun deeper => ⟨label, ?_, deeper⟩
      exact ⟨['['], [']', '('] ++ url ++ [')'], by simp [source]⟩
  | code content =>
      rw [span?, Option.ite_none_left_eq_some, Option.some.injEq] at formed
      obtain ⟨-, rfl⟩ := formed
      exact .inl (List.mem_singleton.mp member)
  | bold content | italic content | strikethrough content =>
      rw [span?, Span.format?, Option.ite_none_left_eq_some, Option.some.injEq] at formed
      obtain ⟨-, rfl⟩ := formed
      refine (List.mem_cons.mp member).imp_right fun deeper => ⟨content, ?_, deeper⟩
      exact List.infix_append _ content _

namespace Span

/-- All spans that are read from a text, at any depth, come from it. -/
theorem comesFrom_of_mem_withinAll
    (levels : Nat)
    (text : Text) :
    ∀ span ∈ withinAll (readNested levels text), span.ComesFrom text := by
  induction levels generalizing text with
  | zero =>
      rw [readNested, literal]
      split
      · simp [withinAll]
      · simpa [withinAll, within] using ComesFrom.text _
  | succ levels inductionHypothesis =>
      have eachPart :
          ∀ outer ∈ readNested (levels + 1) text, ∀ span ∈ outer.within, span.ComesFrom text := by
        rw [readNested, List.forall_mem_map]
        refine Piece.forall_mem_foldr_join (∀ span ∈ ·.within, span.ComesFrom text) ?_ ?_
        · intro content
          simpa [within] using ComesFrom.text content
        · intro capture isPiece outer formed span member
          have stands := Piece.source_infix_of_mem_cut isPiece
          rcases capture.exists_part_of_mem_within formed member with isOuter | deeper
          · obtain ⟨_, _, _, _, -, closed⟩ := Piece.exists_close_of_mem_cut isPiece
            exact isOuter ▸ .captured (Opener.tight_of_close closed) stands formed
          · obtain ⟨part, isInside, member⟩ := deeper
            exact (inductionHypothesis part span member).mono (isInside.trans stands)
      intro span member
      obtain ⟨outer, isRead, member⟩ := mem_withinAll_iff.mp member
      exact eachPart outer isRead span member

/-- A link or an image needs the mark between its label and its target. -/
theorem target_infix_of_isReference
    {inside : Text → List Span}
    {capture : Capture}
    {span : Span}
    (formed : capture.span? inside = some span)
    (isReference : span.isReference) :
    [']', '('] <:+: capture.source := by
  cases capture with
  | image alt url =>
      exact ⟨['!', '['] ++ alt, url ++ [')'], by simp [Capture.source]⟩
  | link label url =>
      exact ⟨['['] ++ label, url ++ [')'], by simp [Capture.source]⟩
  | code content | bold content | italic content | strikethrough content =>
      simp only [Capture.span?, format?, Option.ite_none_left_eq_some, Option.some.injEq] at formed
      simp [← formed.2, Span.isReference] at isReference

/-- What is struck through needs tildes around it. -/
theorem tildes_infix_of_isStrikethrough
    {inside : Text → List Span}
    {capture : Capture}
    {span : Span}
    (formed : capture.span? inside = some span)
    (isStruck : span.isStrikethrough) :
    ['~', '~'] <:+: capture.source := by
  cases capture with
  | strikethrough content =>
      exact ⟨[], content ++ ['~', '~'], by simp [Capture.source]⟩
  | image alt url | link label url =>
      cases formed
      cases isStruck
  | code content | bold content | italic content =>
      simp only [Capture.span?, format?, Option.ite_none_left_eq_some, Option.some.injEq] at formed
      simp [← formed.2, isStrikethrough] at isStruck

/-- No link or image comes from a text without what closes a label. -/
theorem ComesFrom.not_isReference
    {text : Text}
    {span : Span}
    (comes : span.ComesFrom text)
    (absent : ¬ [']', '('] <:+: text) :
    ¬ span.isReference := by
  cases comes with
  | text content =>
      simp [isReference]
  | captured _ stands formed =>
      exact fun isReference => absent ((target_infix_of_isReference formed isReference).trans stands)

/-- No strikethrough comes from a text without two tildes. -/
theorem ComesFrom.not_isStrikethrough
    {text : Text}
    {span : Span}
    (comes : span.ComesFrom text)
    (absent : ¬ ['~', '~'] <:+: text) :
    ¬ span.isStrikethrough := by
  cases comes with
  | text content =>
      simp [isStrikethrough]
  | captured _ stands formed =>
      exact fun isStruck => absent ((tildes_infix_of_isStrikethrough formed isStruck).trans stands)

/-- A span that comes from a text holds only what its marks allow. -/
theorem ComesFrom.contained
    {text : Text}
    {span : Span}
    (comes : span.ComesFrom text) :
    span.Contained := by
  cases comes with
  | text content =>
      trivial
  | @captured levels capture _ tight _ formed =>
      cases capture with
      | image alt url =>
          cases formed
          simpa [Contained, Capture.Tight] using tight
      | link label url =>
          cases formed
          refine ⟨fun span member => ?_, by simpa using tight.2⟩
          exact (comesFrom_of_mem_withinAll levels label span member).not_isReference tight.1
      | code content =>
          rw [Capture.span?, Option.ite_none_left_eq_some, Option.some.injEq] at formed
          obtain ⟨-, rfl⟩ := formed
          simpa [Contained, Capture.Tight] using tight
      | bold content | italic content =>
          rw [Capture.span?, format?, Option.ite_none_left_eq_some, Option.some.injEq] at formed
          obtain ⟨-, rfl⟩ := formed
          trivial
      | strikethrough content =>
          rw [Capture.span?, format?, Option.ite_none_left_eq_some, Option.some.injEq] at formed
          obtain ⟨-, rfl⟩ := formed
          intro span member
          exact (comesFrom_of_mem_withinAll levels content span member).not_isStrikethrough tight

/--
At any depth of what is read, there is no link and no image inside a link, nothing is
struck through twice, no code has a backtick, no target has a closing parenthesis, and
the label of an image does not have the mark that ends it.
-/
theorem contained_of_mem_withinAll_read
    (text : Text) :
    ∀ span ∈ withinAll (read text), span.Contained :=
  fun span member => (comesFrom_of_mem_withinAll maxNesting text span member).contained

/-- An image that is opened but not closed inside a link, and a third tilde behind two. -/
theorem contained_of_mem_withinAll_read_overlapping :
    let text : Text := ['[', '!', '[', '~', '~', '~', 'a', '~', '~', ']', '(', 'u', ')']
    let outer : Span := .link "u" [.text "![", .strikethrough [.text "~a"]]
    outer ∈ withinAll (read text) ∧ outer.Contained := by
  intro text outer
  have isRead : read text = [outer] := by
    cbv
  have member : outer ∈ withinAll (read text) := by
    simp [isRead, outer, withinAll, within]
  exact ⟨member, contained_of_mem_withinAll_read text outer member⟩

end Span

end Guidebook
