import Guidebook.Proofs.Span.Pieces
import Mathlib.Data.List.Basic

namespace Guidebook

/-!
# Writing spans back

A span tree is written with the delimiters it was read from.  Reading a text
and writing its spans gives the text back, but for delimiters that enclose
nothing: those are dropped together with the marks that they enclose.  Where no
two delimiters stand right behind each other, the text comes back unchanged.
-/

mutual

/-- A span with its delimiters. -/
def Span.write : Span → Text
  | .text content => content.toList
  | .bold content => ['*', '*'] ++ Span.writeAll content ++ ['*', '*']
  | .italic content => ['*'] ++ Span.writeAll content ++ ['*']
  | .strikethrough content => ['~', '~'] ++ Span.writeAll content ++ ['~', '~']
  | .code content => ['\x60'] ++ content.toList ++ ['\x60']
  | .link url content =>
      ['['] ++ Span.writeAll content ++ [']', '('] ++ url.toList ++ [')']
  | .image alt url => ['!', '['] ++ alt.toList ++ [']', '('] ++ url.toList ++ [')']

/-- Spans with their delimiters, one after the other. -/
def Span.writeAll : List Span → Text
  | [] => []
  | span :: rest => span.write ++ Span.writeAll rest

end

/-- The marks that are dropped where they enclose nothing. -/
def isDroppedMark (character : Char) : Bool :=
  character == '*' || character == '~' || character == '\x60'

/-- The first text is the second one less some of its stars, tildes and backticks. -/
inductive Thinned : Text → Text → Prop where
  | nil :
      Thinned [] []
  | keep
      (character : Char)
      {kept text : Text} :
      Thinned kept text →
      Thinned (character :: kept) (character :: text)
  | drop
      {character : Char}
      {kept text : Text} :
      isDroppedMark character →
      Thinned kept text →
      Thinned kept (character :: text)

namespace Thinned

theorem refl (text : Text) :
    Thinned text text := by
  induction text with
  | nil =>
      exact .nil
  | cons character rest inductionHypothesis =>
      exact .keep character inductionHypothesis

/-- Texts that are thinned make a thinned text one behind the other. -/
theorem append
    {kept text keptLater later : Text}
    (first : Thinned kept text)
    (second : Thinned keptLater later) :
    Thinned (kept ++ keptLater) (text ++ later) := by
  induction first with
  | nil =>
      exact second
  | keep character _ inductionHypothesis =>
      exact .keep character inductionHypothesis
  | drop isDropped _ inductionHypothesis =>
      exact .drop isDropped inductionHypothesis

/-- A thinned text has only characters of the text. -/
theorem subset
    {kept text : Text}
    (thinned : Thinned kept text) :
    kept ⊆ text := by
  induction thinned with
  | nil =>
      exact List.Subset.refl []
  | keep character _ inductionHypothesis =>
      exact List.cons_subset_cons character inductionHypothesis
  | drop _ _ inductionHypothesis =>
      exact List.subset_cons_of_subset _ inductionHypothesis

/-- Marks may all be lost. -/
theorem of_forall_isDroppedMark
    {text : Text}
    (marks : ∀ character ∈ text, isDroppedMark character) :
    Thinned [] text := by
  induction text with
  | nil =>
      exact .nil
  | cons character rest inductionHypothesis =>
      exact .drop (marks character (by simp))
        (inductionHypothesis (fun later member => marks later (by simp [member])))

/-- A thinned text may keep the marks around it. -/
theorem enclose
    {kept text delimiter : Text}
    (thinned : Thinned kept text) :
    Thinned (delimiter ++ kept ++ delimiter) (delimiter ++ text ++ delimiter) :=
  ((refl delimiter).append thinned).append (refl delimiter)

/-- Where a text is lost, the marks around it may be lost with it. -/
theorem drop_enclosed
    {text delimiter : Text}
    (marks : ∀ character ∈ delimiter, isDroppedMark character)
    (thinned : Thinned [] text) :
    Thinned [] (delimiter ++ text ++ delimiter) :=
  ((of_forall_isDroppedMark marks).append thinned).append (of_forall_isDroppedMark marks)

end Thinned

/-- A text in which no delimiter of emphasis or code stands right behind its like. -/
structure Uncrowded (text : Text) : Prop where
  stars :
    ¬ ['*', '*', '*', '*'] <:+: text
  tildes :
    ¬ ['~', '~', '~', '~'] <:+: text
  backticks :
    ¬ ['\x60', '\x60'] <:+: text

/-- A part of a text without empty pairs of marks has none either. -/
theorem Uncrowded.of_infix
    {part text : Text}
    (uncrowded : Uncrowded text)
    (within : part <:+: text) :
    Uncrowded part where
  stars crowded :=
    uncrowded.stars (crowded.trans within)
  tildes crowded :=
    uncrowded.tildes (crowded.trans within)
  backticks crowded :=
    uncrowded.backticks (crowded.trans within)

/-- The span that may stand for a stretch, written; nothing where there is none. -/
def Span.writeOptional : Option Span → Text
  | none => []
  | some span => span.write

/-- What a piece leaves in the spans, when the insides of stretches are read as given. -/
def Piece.written (inside : Text → List Span) : Piece → Text
  | .literal character => [character]
  | .captured capture => Span.writeOptional (capture.span? inside)

/-- Joining a piece to the stretches behind it writes it in front of them. -/
theorem Piece.writeAll_join
    (inside : Text → List Span)
    (piece : Piece)
    (stretches : List Stretch) :
    Span.writeAll ((piece.join inside stretches).map Stretch.toSpan) =
      piece.written inside ++ Span.writeAll (stretches.map Stretch.toSpan) := by
  cases piece with
  | literal character =>
      cases stretches with
      | nil =>
          simp [join, Stretch.consLiteral, Stretch.toSpan, written, Span.writeAll, Span.write]
      | cons stretch later =>
          cases stretch <;>
            simp [join, Stretch.consLiteral, Stretch.toSpan, written, Span.writeAll,
              Span.write]
  | captured capture =>
      cases formed : capture.span? inside with
      | none =>
          simp [join, written, formed, Span.writeOptional]
      | some span =>
          simp [join, written, formed, Span.writeOptional, Stretch.toSpan, Span.writeAll]

/-- The spans of pieces are written as what is written of each piece. -/
theorem Piece.writeAll_foldr_join
    (inside : Text → List Span)
    (pieces : List Piece) :
    Span.writeAll ((pieces.foldr (join inside) []).map Stretch.toSpan) =
      pieces.flatMap (written inside) := by
  induction pieces with
  | nil =>
      rfl
  | cons piece rest inductionHypothesis =>
      rw [List.foldr_cons, writeAll_join, inductionHypothesis, List.flatMap_cons]

/-- Literal text is written as it is. -/
@[simp] theorem Span.writeAll_literal (text : Text) :
    writeAll (literal text) = text := by
  cases text <;> simp [literal, writeAll, write]

section Emphasis

variable
    {format : List Span → Span}
    {delimiter content : Text}
    {spans : List Span}

/-- Emphasis is written between its delimiters, or left out with them when it is of nothing. -/
theorem Span.thinned_writeOptional_format?
    (writes : ∀ spans, (format spans).write = delimiter ++ writeAll spans ++ delimiter)
    (marks : ∀ character ∈ delimiter, isDroppedMark character)
    (thinned : Thinned (writeAll spans) content) :
    Thinned (writeOptional (format? format spans)) (delimiter ++ content ++ delimiter) := by
  cases spans with
  | nil =>
      exact thinned.drop_enclosed marks
  | cons span rest =>
      simp only [format?, List.isEmpty_cons, Bool.false_eq_true, ↓reduceIte, writeOptional,
        writes]
      exact thinned.enclose

/-- A stretch whose content is not empty is written as it stood. -/
theorem Span.writeOptional_format?_eq
    (writes : ∀ spans, (format spans).write = delimiter ++ writeAll spans ++ delimiter)
    (same : writeAll spans = content)
    (nonempty : content ≠ []) :
    writeOptional (format? format spans) = delimiter ++ content ++ delimiter := by
  cases spans with
  | nil =>
      exact (nonempty same.symm).elim
  | cons span rest =>
      simp only [format?, List.isEmpty_cons, Bool.false_eq_true, ↓reduceIte, writeOptional,
        writes, same]

end Emphasis

namespace Piece

/-- What a piece leaves is its source, thinned, if that holds of what stands inside. -/
theorem thinned_written
    {inside : Text → List Span}
    (thinnedInside : ∀ text, Thinned (Span.writeAll (inside text)) text)
    (piece : Piece) :
    Thinned (piece.written inside) piece.source := by
  cases piece with
  | literal character =>
      exact .refl [character]
  | captured capture =>
      cases capture with
      | image alt url =>
          simp only [written, Capture.span?, Span.writeOptional, Span.write, source,
            Capture.source, String.toList_ofList]
          exact .refl _
      | link label url =>
          simp only [written, Capture.span?, Span.writeOptional, Span.write, source,
            Capture.source, String.toList_ofList]
          exact ((((Thinned.refl ['[']).append (thinnedInside label)).append
            (.refl [']', '('])).append (.refl url)).append (.refl [')'])
      | code content =>
          cases content with
          | nil =>
              exact .of_forall_isDroppedMark (by simp [source, Capture.source, isDroppedMark])
          | cons character rest =>
              simp only [written, Capture.span?, List.isEmpty_cons, Bool.false_eq_true,
                ↓reduceIte, Span.writeOptional, Span.write, source, Capture.source,
                String.toList_ofList]
              exact .refl _
      | bold content =>
          exact Span.thinned_writeOptional_format? (fun _ => by rw [Span.write])
            (by simp [isDroppedMark]) (thinnedInside content)
      | italic content =>
          exact Span.thinned_writeOptional_format? (fun _ => by rw [Span.write])
            (by simp [isDroppedMark]) (thinnedInside content)
      | strikethrough content =>
          exact Span.thinned_writeOptional_format? (fun _ => by rw [Span.write])
            (by simp [isDroppedMark]) (thinnedInside content)

/-- A piece of an uncrowded text is written as it stands, if that holds of what stands inside. -/
theorem written_eq_source
    {inside : Text → List Span}
    (sameInside : ∀ text, Uncrowded text → Span.writeAll (inside text) = text)
    {piece : Piece}
    (uncrowded : Uncrowded piece.source)
    (notEmpty : piece ≠ .captured (.italic [])) :
    piece.written inside = piece.source := by
  cases piece with
  | literal character =>
      rfl
  | captured capture =>
      cases capture with
      | image alt url =>
          simp [written, Capture.span?, Span.writeOptional, Span.write, source, Capture.source]
      | link label url =>
          have within : label <:+: source (.captured (.link label url)) :=
            ⟨['['], [']', '('] ++ url ++ [')'], by simp [source, Capture.source]⟩
          simp [written, Capture.span?, Span.writeOptional, Span.write, source, Capture.source,
            sameInside label (uncrowded.of_infix within)]
      | code content =>
          cases content with
          | nil =>
              exact (uncrowded.backticks (List.infix_refl _)).elim
          | cons character rest =>
              simp [written, Capture.span?, Span.writeOptional, Span.write, source,
                Capture.source]
      | bold content =>
          have within : content <:+: source (.captured (.bold content)) :=
            List.infix_append ['*', '*'] content ['*', '*']
          refine Span.writeOptional_format?_eq (fun _ => by rw [Span.write])
            (sameInside content (uncrowded.of_infix within)) ?_
          rintro rfl
          exact uncrowded.stars (List.infix_refl _)
      | italic content =>
          have within : content <:+: source (.captured (.italic content)) :=
            List.infix_append ['*'] content ['*']
          refine Span.writeOptional_format?_eq (fun _ => by rw [Span.write])
            (sameInside content (uncrowded.of_infix within)) ?_
          rintro rfl
          exact notEmpty rfl
      | strikethrough content =>
          have within : content <:+: source (.captured (.strikethrough content)) :=
            List.infix_append ['~', '~'] content ['~', '~']
          refine Span.writeOptional_format?_eq (fun _ => by rw [Span.write])
            (sameInside content (uncrowded.of_infix within)) ?_
          rintro rfl
          exact uncrowded.tildes (List.infix_refl _)

end Piece

namespace Span

/-- What is read on any level is written as a thinned text. -/
theorem thinned_writeAll_readNested
    (levels : Nat)
    (text : Text) :
    Thinned (writeAll (readNested levels text)) text := by
  induction levels generalizing text with
  | zero =>
      rw [readNested, writeAll_literal]
      exact .refl text
  | succ levels inductionHypothesis =>
      have thinnedPieces
          (pieces : List Piece) :
          Thinned (pieces.flatMap (Piece.written (readNested levels)))
            (pieces.flatMap Piece.source) := by
        induction pieces with
        | nil =>
            exact .nil
        | cons piece rest restThinned =>
            exact (piece.thinned_written inductionHypothesis).append restThinned
      have whole := thinnedPieces (Piece.cut [] text)
      rw [Piece.flatMap_source_cut] at whole
      rw [readNested, Piece.writeAll_foldr_join]
      exact whole

/-- A text without empty pairs of marks is written as it was read, on any level. -/
theorem writeAll_readNested
    (levels : Nat)
    {text : Text}
    (uncrowded : Uncrowded text) :
    writeAll (readNested levels text) = text := by
  induction levels generalizing text with
  | zero =>
      exact writeAll_literal text
  | succ levels inductionHypothesis =>
      -- Each piece is a part of the text, so it is uncrowded itself.
      have samePieces :
          ∀ piece ∈ Piece.cut [] text,
            piece.written (readNested levels) = piece.source := by
        intro piece member
        have within : piece.source <:+: text := by
          rw [← Piece.flatMap_source_cut [] text, List.flatMap_def]
          exact List.infix_of_mem_flatten (List.mem_map_of_mem member)
        refine piece.written_eq_source (fun _ => inductionHypothesis)
          (uncrowded.of_infix within) ?_
        rintro rfl
        exact Piece.ne_italic_nil_of_mem_cut member rfl
      rw [readNested, Piece.writeAll_foldr_join, List.flatMap_congr samePieces,
        Piece.flatMap_source_cut]

/--
Reading a text and writing its spans loses nothing but stars, tildes and
backticks, and none of them where no empty pair of delimiters stands in the text.
-/
theorem writeAll_read
    (text : Text) :
    Thinned (writeAll (read text)) text ∧
      (¬ ['*', '*', '*', '*'] <:+: text →
        ¬ ['~', '~', '~', '~'] <:+: text →
        ¬ ['\x60', '\x60'] <:+: text →
        writeAll (read text) = text) :=
  ⟨thinned_writeAll_readNested maxNesting text,
    fun stars tildes backticks =>
      writeAll_readNested maxNesting ⟨stars, tildes, backticks⟩⟩

/-- A run of stars that closes an italic and the bold stretch around it comes back whole. -/
theorem writeAll_read_shared_run :
    ¬ ['*', '*', '*', '*'] <:+: ['*', '*', 'a', '*', 'b', '*', '*', '*', '~'] ∧
      ¬ ['~', '~', '~', '~'] <:+: ['*', '*', 'a', '*', 'b', '*', '*', '*', '~'] ∧
      ¬ ['\x60', '\x60'] <:+: ['*', '*', 'a', '*', 'b', '*', '*', '*', '~'] ∧
      writeAll (read ['*', '*', 'a', '*', 'b', '*', '*', '*', '~']) =
        ['*', '*', 'a', '*', 'b', '*', '*', '*', '~'] :=
  ⟨by decide, by decide, by decide,
    (writeAll_read ['*', '*', 'a', '*', 'b', '*', '*', '*', '~']).2
      (by decide) (by decide) (by decide)⟩

end Span

end Guidebook
