import Guidebook.Proofs.Typst.BlockMarkers

namespace Guidebook

/-!
# The texts that stand first in spans and strips

The texts that stand first in the markup of some content are the one that the content
starts with, if the content stands first itself, and those that come first in its spans.
In strips that start on new lines all content stands first.
-/

open Typst

namespace Typst.Passage

/-- The text of a passage, if it stands first behind some markup. -/
def first (before : Text) : Passage → List Text
  | .signs _ => []
  | .source text => if standsFirst before then [text] else []

/-- The texts of some passages that stand first, when markup comes before them. -/
def firsts (before : Text) : List Passage → List Text
  | [] => []
  | passage :: rest => passage.first before ++ firsts (before ++ passage.write) rest

/-- No text is empty, and none is carried on by what is written behind it. -/
def Apart (behind : Text) : List Passage → Prop
  | [] => True
  | .signs _ :: rest => Apart behind rest
  | .source text :: rest => text ≠ [] ∧ Stops (writeAll rest ++ behind) ∧ Apart behind rest

/-- Which texts stand first in passages behind others depends on what those are written as. -/
theorem firsts_append
    (before : Text)
    (front back : List Passage) :
    firsts before (front ++ back) =
      firsts before front ++ firsts (before ++ writeAll front) back := by
  induction front generalizing before with
  | nil =>
      simp [firsts]
  | cons passage rest inductionHypothesis =>
      simp [firsts, inductionHypothesis]

/-- The texts that stand first are those of passages that do so behind the ones before them. -/
theorem mem_firsts_iff
    {text before : Text}
    {passages : List Passage} :
    text ∈ firsts before passages ↔
      ∃ front back,
        passages = front ++ .source text :: back ∧ standsFirst (before ++ writeAll front) := by
  induction passages generalizing before with
  | nil =>
      simp [firsts]
  | cons passage rest inductionHypothesis =>
      rw [firsts, List.mem_append, inductionHypothesis]
      constructor
      · rintro (isFirst | ⟨front, back, rfl, stands⟩)
        · cases passage with
          | signs markup =>
              cases isFirst
          | source own =>
              rw [first] at isFirst
              split at isFirst
              · next stands =>
                  obtain rfl := List.mem_singleton.mp isFirst
                  exact ⟨[], rest, rfl, by simpa using stands⟩
              · cases isFirst
        · exact ⟨passage :: front, back, rfl, by simpa using stands⟩
      · rintro ⟨front, back, shape, stands⟩
        cases front with
        | nil =>
            cases shape
            refine .inl ?_
            rw [writeAll_nil, List.append_nil] at stands
            rw [first, if_pos stands]
            exact List.mem_singleton_self _
        | cons passage front =>
            cases shape
            exact .inr ⟨front, back, rfl, by simpa using stands⟩

/-- The texts in a call stand first or not by how the call starts. -/
theorem firsts_call
    (before : Text)
    (wrapper : Wrapper)
    (content : List Passage) :
    firsts before (call wrapper content) = firsts (before ++ wrapper.start) content := by
  rw [call, firsts, firsts_append]
  exact List.append_nil _

/-- Passages are apart when each part is apart from what is written behind it. -/
theorem apart_append
    {behind : Text}
    {front back : List Passage} :
    Apart behind (front ++ back) ↔ Apart (writeAll back ++ behind) front ∧ Apart behind back := by
  induction front with
  | nil =>
      simp [Apart]
  | cons passage rest inductionHypothesis =>
      cases passage with
      | signs markup =>
          exact inductionHypothesis
      | source text =>
          simp [Apart, inductionHypothesis, and_assoc]

/-- The bracket that ends a call is what is written behind its content. -/
theorem apart_call
    {behind : Text}
    {wrapper : Wrapper}
    {content : List Passage} :
    Apart behind (call wrapper content) ↔ Apart (']' :: ';' :: behind) content := by
  rw [call, Apart, apart_append]
  simp [Apart, write]

/-- A text stands in front of what does not carry it on. -/
theorem Apart.of_source
    {behind : Text}
    {front back : List Passage}
    {text : Text}
    (apart : Apart behind (front ++ .source text :: back)) :
    text ≠ [] ∧ Stops (writeAll back ++ behind) := by
  obtain ⟨-, nonempty, stops, -⟩ := apart_append.mp apart
  exact ⟨nonempty, stops⟩

end Typst.Passage

/-! ## Spans -/

/-- The text that some content starts with, if it starts with text. -/
def Span.start : List Span → List Text
  | .text content :: _ => [content.toList]
  | _ => []

mutual

/-- The texts that come first in the content of a span and of the spans inside it. -/
def Span.startsInside : Span → List Text
  | .text _ => []
  | .bold content => Span.start content ++ Span.startsInsideAll content
  | .italic content => Span.start content ++ Span.startsInsideAll content
  | .strikethrough content => Span.start content ++ Span.startsInsideAll content
  | .code _ => []
  | .link _ content => Span.start content ++ Span.startsInsideAll content
  | .image _ _ => []

/-- The texts that come first in the content of some spans and of the spans inside them. -/
def Span.startsInsideAll : List Span → List Text
  | [] => []
  | span :: rest => span.startsInside ++ Span.startsInsideAll rest

end

/-- The texts that come first in some content, or in that of a span anywhere inside it. -/
def Span.starts (content : List Span) : List Text :=
  start content ++ startsInsideAll content

namespace Span

/-- Content that does not start with text has no text that comes first. -/
theorem start_eq_nil
    {spans : List Span}
    (noText : ¬ spans.head?.any isText) :
    start spans = [] := by
  unfold start
  split
  · exact (noText rfl).elim
  · rfl

/-- Only the first span says which text comes first. -/
theorem start_cons
    (span : Span)
    (rest : List Span) :
    start (span :: rest) = start [span] := by
  cases span with
  | _ =>
      rfl

/-- Unless text comes first, spans carry no text on if what is behind them does not. -/
theorem stops_typesetAll_append
    {spans : List Span}
    (noText : ¬ spans.head?.any isText)
    {markup : Text}
    (stops : Stops markup) :
    Stops (typesetAll spans ++ markup) := by
  cases spans with
  | nil =>
      exact stops
  | cons span rest =>
      obtain ⟨inside, shape⟩ := isCall_typeset noText
      rw [typesetAll, shape]
      exact stops_of_head? rfl (by decide)

mutual

/--
The texts of a span that stand first are its own, when it stands first, and those that
come first inside it.
-/
theorem firsts_passages
    {span : Span}
    (normal : span.Normal)
    (before : Text) :
    Passage.firsts before span.passages =
      (if standsFirst before then start [span] else []) ++ span.startsInside := by
  cases span with
  | text content =>
      rw [passages, startsInside]
      rfl
  | bold content | italic content | strikethrough content =>
      rw [passages, Passage.firsts_call, firsts_passagesAll normal,
        if_pos (standsFirst_behind_start before _)]
      split
      · rfl
      · rfl
  | code content | image alt url =>
      simp [passages, startsInside, Passage.firsts, Passage.first, start]
  | link url content =>
      have notFirst : (if standsFirst before then start [link url content] else []) = [] :=
        ite_self []
      rw [passages, notFirst]
      split
      · next isEmpty =>
          rw [List.isEmpty_iff.mp isEmpty]
          rfl
      · rw [Passage.firsts_call, firsts_passagesAll normal,
          if_pos (standsFirst_behind_start before _)]
        rfl

/--
The texts of spans that stand first are the first one of all and those that come first
inside a span.
-/
theorem firsts_passagesAll
    {spans : List Span}
    (normal : NormalAll spans)
    (before : Text) :
    Passage.firsts before (passagesAll spans) =
      (if standsFirst before then start spans else []) ++ startsInsideAll spans := by
  cases spans with
  | nil =>
      simp [passagesAll, Passage.firsts, start, startsInsideAll]
  | cons span rest =>
      obtain ⟨spanNormal, apart, restNormal⟩ := normal
      -- No text stands right behind another one, and nothing stands first behind a call.
      have restNotFirst :
          (if standsFirst (before ++ span.typeset) then start rest else []) = [] := by
        by_cases isText : span.isText
        · rw [start_eq_nil (apart isText), ite_self]
        · rw [if_neg (not_standsFirst_behind_call before (isCall_typeset isText))]
      rw [passagesAll, Passage.firsts_append, writeAll_passages, firsts_passages spanNormal,
        firsts_passagesAll restNormal, restNotFirst, start_cons span rest, startsInsideAll,
        List.nil_append, List.append_assoc]

end

mutual

/-- The text of a span is not carried on by the signs that are written behind it. -/
theorem apart_passages
    {span : Span}
    (normal : span.Normal)
    {behind : Text}
    (stops : span.isText → Stops behind) :
    Passage.Apart behind span.passages := by
  have closing : Stops (']' :: ';' :: behind) :=
    stops_of_head? rfl (by decide)
  cases span with
  | text content =>
      have nonempty : content.toList ≠ [] := by
        simpa [Normal] using normal
      rw [passages]
      exact ⟨nonempty, stops rfl, trivial⟩
  | bold content | italic content | strikethrough content =>
      rw [passages, Passage.apart_call]
      exact apart_passagesAll normal closing
  | code content | image alt url =>
      rw [passages]
      trivial
  | link url content =>
      rw [passages]
      split
      · trivial
      · rw [Passage.apart_call]
        exact apart_passagesAll normal closing

/-- Texts next to each other are joined in normal form, so each one ends at a sign. -/
theorem apart_passagesAll
    {spans : List Span}
    (normal : NormalAll spans)
    {behind : Text}
    (stops : Stops behind) :
    Passage.Apart behind (passagesAll spans) := by
  cases spans with
  | nil =>
      trivial
  | cons span rest =>
      obtain ⟨spanNormal, apart, restNormal⟩ := normal
      rw [passagesAll, Passage.apart_append, writeAll_passagesAll]
      exact ⟨apart_passages spanNormal fun isText => stops_typesetAll_append (apart isText) stops,
        apart_passagesAll restNormal stops⟩

end

end Span

/-! ## Strips -/

namespace Strip

/--
The spans of a strip are in normal form, and they stand first if the strip starts on a
new line.  Its tail carries no text on and leaves a new line for the next strip.
-/
structure Sound (strip : Strip) : Prop where
  normal : Span.NormalAll strip.content
  leads : ∀ before, AtLineStart before → standsFirst (before ++ strip.lead)
  stops : Stops strip.tail
  ends : strip.tail.getLast? = some '\n'

/-- In a sound strip on a new line those texts stand first that come first in its content. -/
theorem Sound.firsts_passages
    {strip : Strip}
    (sound : strip.Sound)
    {before : Text}
    (atLineStart : AtLineStart before) :
    Passage.firsts before strip.passages = Span.starts strip.content := by
  have content := Span.firsts_passagesAll sound.normal (before ++ strip.lead)
  rw [if_pos (sound.leads before atLineStart)] at content
  rw [passages, Passage.firsts, Passage.firsts_append]
  exact (List.append_nil _).trans content

/-- The texts of a sound strip end before its tail, whatever comes behind that. -/
theorem Sound.apart_passages
    {strip : Strip}
    (sound : strip.Sound)
    (behind : Text) :
    Passage.Apart behind strip.passages := by
  have nonempty : strip.tail ≠ [] := by
    intro isNil
    have ends := sound.ends
    rw [isNil] at ends
    cases ends
  rw [passages, Passage.Apart, Passage.apart_append]
  refine ⟨Span.apart_passagesAll sound.normal ?_, trivial⟩
  rw [Passage.writeAll_cons, Passage.writeAll_nil, List.append_nil]
  exact sound.stops.append nonempty behind

/-- A sound strip leaves a new line for the next one. -/
theorem Sound.atLineStart
    {strip : Strip}
    (sound : strip.Sound)
    (before : Text) :
    AtLineStart (before ++ strip.typeset) := by
  rw [typeset, ← List.append_assoc]
  exact atLineStart_append _ sound.ends

/-- The texts that come first in what some strips show. -/
def startsAll (strips : List Strip) : List Text :=
  strips.flatMap (Span.starts ·.content)

/-- In sound strips below each other those texts stand first that come first in any of them. -/
theorem firsts_flatMap_passages
    {strips : List Strip}
    (sound : ∀ strip ∈ strips, strip.Sound)
    {before : Text}
    (atLineStart : AtLineStart before) :
    Passage.firsts before (strips.flatMap passages) = startsAll strips := by
  induction strips generalizing before with
  | nil =>
      rfl
  | cons strip rest inductionHypothesis =>
      obtain ⟨stripSound, restSound⟩ := List.forall_mem_cons.mp sound
      rw [List.flatMap_cons, startsAll, List.flatMap_cons, Passage.firsts_append,
        writeAll_passages, stripSound.firsts_passages atLineStart,
        inductionHypothesis restSound (stripSound.atLineStart before), startsAll]

/-- The texts of sound strips end where they are written to end. -/
theorem apart_flatMap_passages
    {strips : List Strip}
    (sound : ∀ strip ∈ strips, strip.Sound)
    (behind : Text) :
    Passage.Apart behind (strips.flatMap passages) := by
  induction strips with
  | nil =>
      trivial
  | cons strip rest inductionHypothesis =>
      obtain ⟨stripSound, restSound⟩ := List.forall_mem_cons.mp sound
      rw [List.flatMap_cons, Passage.apart_append]
      exact ⟨stripSound.apart_passages _, inductionHypothesis restSound⟩

/-- Signs that begin apart from numbers and end their line make a sound strip without content. -/
theorem sound_frame
    {signs : Text}
    {first : Char}
    (begins : signs.head? = some first)
    (apart : ¬ first.isDigit ∧ first ∉ ['.', ' '])
    (ends : signs.getLast? = some '\n') :
    (frame signs).Sound where
  normal := trivial
  leads _ atLineStart := standsFirst_behind_lead atLineStart List.not_mem_nil rfl
  stops := stops_of_head? begins apart
  ends := ends

/-- Sound strips stay sound when they are kept on one page. -/
theorem sound_keepTogether
    {strips : List Strip}
    (sound : ∀ strip ∈ strips, strip.Sound) :
    ∀ strip ∈ keepTogether strips, strip.Sound := by
  rw [keepTogether, List.forall_mem_cons, List.forall_mem_append, List.forall_mem_singleton]
  exact ⟨sound_frame rfl (by decide) rfl, sound, sound_frame rfl (by decide) rfl⟩

/-- A paragraph is sound when its content is in normal form. -/
theorem sound_paragraph
    {content : List Span}
    (normal : Span.NormalAll content) :
    (paragraph content).Sound where
  normal := normal
  leads _ atLineStart := standsFirst_behind_lead atLineStart List.not_mem_nil rfl
  stops := stops_of_head? rfl (by decide)
  ends := rfl

/-- A heading is sound, with its marks first on its line, when its content is in normal form. -/
theorem sound_heading
    (theme : Theme)
    (level : Nat)
    {content : List Span}
    (normal : Span.NormalAll content) :
    Sound ⟨headingLead theme level, content, "\n\n".toList⟩ where
  normal := normal
  leads _ atLineStart := by
    have oneLine : '\n' ∉ headingLead theme level := by
      simp [headingLead]
    have lead : isLead (headingLead theme level) := by
      rw [headingLead, ← Nat.sub_add_cancel (Nat.le_max_left 1 _)]
      exact isLead_headingMarker _
    exact standsFirst_behind_lead atLineStart oneLine lead
  stops := stops_of_head? rfl (by decide)
  ends := rfl

/-- The line of an item is sound when its content is in normal form. -/
theorem sound_ofNode
    {node : Node}
    (normal : Span.NormalAll node.item.content) :
    (ofNode node).Sound := by
  obtain ⟨level, ordered, leads, content, checked, nested⟩ := node
  exact {
    normal := normal
    leads := fun _ atLineStart =>
      standsFirst_behind_lead atLineStart
        (ListRow.newline_not_mem_line (newline_not_mem_taskBox checked))
        (isLead_itemMarker (level - 1) ordered checked)
    stops := stops_of_head? rfl (by decide)
    ends := rfl }

/-- A lead that ends with an opening bracket makes its strip stand first wherever it is. -/
theorem sound_behind_opening
    (front : Text)
    {last : Char}
    (notBackslash : last ≠ '\\')
    {content : List Span}
    (normal : Span.NormalAll content)
    {tail : Text}
    (stops : Stops tail)
    (ends : tail.getLast? = some '\n') :
    Sound ⟨front ++ [last, '['], content, tail⟩ where
  normal := normal
  leads before _ := by
    rw [← List.append_assoc]
    exact standsFirst_behind_opening _ notBackslash
  stops := stops
  ends := ends

theorem sound_headerCell
    {cell : Cell}
    (normal : Span.NormalAll cell) :
    (headerCell cell).Sound := by
  have notBackslash : 'g' ≠ '\\' := by
    decide
  exact sound_behind_opening "  [#stron".toList notBackslash normal
    (stops_of_head? rfl (by decide)) rfl

theorem sound_bodyCell
    {cell : Cell}
    (normal : Span.NormalAll cell) :
    (bodyCell cell).Sound := by
  have notBackslash : ' ' ≠ '\\' := by
    decide
  exact sound_behind_opening [' '] notBackslash normal (stops_of_head? rfl (by decide)) rfl

/-- What stands in front of a quote or an admonition shows no spans and ends its own line. -/
theorem sound_quoteStart
    (theme : Theme)
    (callout? : Option Callout) :
    (frame (quoteStart theme callout?)).Sound := by
  cases callout? with
  | none =>
      exact sound_frame rfl (by decide) rfl
  | some callout =>
      have ends : (admonitionStart theme callout).getLast? = some '\n' := by
        unfold admonitionStart
        exact List.getLast?_append
      exact sound_frame rfl (by decide) ends

theorem sound_tableStart
    (columns : Nat)
    (alignments : List Alignment) :
    (frame (tableStart columns alignments)).Sound := by
  have ends : (tableStart columns alignments).getLast? = some '\n' := by
    unfold tableStart columnAlignments
    rw [List.getLast?_append]
    split
    · rw [List.getLast?_append]
      rfl
    · rw [List.getLast?_append]
      rfl
  exact sound_frame rfl (by decide) ends

/-- A listing shows no spans and ends its own line. -/
theorem sound_typesetCode
    (style : CodeStyle)
    (language : String)
    (lines : List String) :
    (frame (style.typesetCode language lines)).Sound := by
  have ends : (style.typesetCode language lines).getLast? = some '\n' := by
    unfold CodeStyle.typesetCode
    exact List.getLast?_append
  have begins : (style.typesetCode language lines).head? = some '#' := by
    unfold CodeStyle.typesetCode
    rfl
  exact sound_frame begins (by decide) ends

/-- The rules in front of a guide show no spans and end their own line. -/
theorem sound_preamble
    (theme : Theme) :
    (frame theme.preamble).Sound := by
  have ends : theme.preamble.getLast? = some '\n' := by
    unfold Theme.preamble
    exact List.getLast?_append
  have begins : theme.preamble.head? = some '#' := by
    unfold Theme.preamble
    rfl
  exact sound_frame begins (by decide) ends

end Strip

end Guidebook
