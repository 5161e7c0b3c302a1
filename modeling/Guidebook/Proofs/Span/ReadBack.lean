import Guidebook.Proofs.Span.Canonical

namespace Guidebook

/-!
# Spans read back as written

Canonical spans that are written with their delimiters are read back as they were.
Every opener in the text finds the closer that was written for it, so the text is cut
into what the spans stand for, and what stands inside is read back in the same way.
-/

/-! ## Closers found where they were written -/

/-- A marker is found behind a text that does not have its first character. -/
theorem splitAround?_append
    {first : Char}
    {front : Text}
    (absent : first ∉ front)
    (marker behind : Text) :
    Text.splitAround? (front ++ (first :: marker ++ behind)) (first :: marker) =
      some (front, behind) := by
  induction front with
  | nil =>
      simp [Text.splitAround?]
  | cons character later inductionHypothesis =>
      rw [List.mem_cons, not_or] at absent
      rw [List.cons_append, Text.splitAround?, inductionHypothesis absent.2]
      simp [absent.1]

/-- A label and a target without the closers of their own are split off whole. -/
theorem splitTarget?_append
    {label url : Text}
    (labelPlain : ']' ∉ label)
    (urlPlain : ')' ∉ url)
    (behind : Text) :
    splitTarget? (label ++ (']' :: '(' :: (url ++ ')' :: behind))) = some (label, url, behind) := by
  have foundLabel := splitAround?_append labelPlain ['('] (url ++ ')' :: behind)
  have foundUrl := splitAround?_append urlPlain [] behind
  simp only [List.cons_append, List.nil_append] at foundLabel foundUrl
  simp only [splitTarget?, foundLabel, foundUrl, Option.map_some]

namespace Opener

/-- No stretch opens at a character that is no mark. -/
theorem at?_eq_none
    {character : Char}
    (unmarked : character ∉ markupCharacters)
    (rest : Text) :
    at? (character :: rest) = none := by
  unfold at?
  split <;> simp_all [markupCharacters]

variable {content behind : Text}

/-- Code is closed by the next backtick. -/
theorem close_code
    (absent : '\x60' ∉ content) :
    close .code (content ++ '\x60' :: behind) = .closed (.code content) behind := by
  have found := splitAround?_append absent [] behind
  simp only [List.cons_append, List.nil_append] at found
  simp only [close, found]

/-- A strikethrough without a tilde inside is closed by the next two. -/
theorem close_strikethrough
    (absent : '~' ∉ content) :
    close .strikethrough (content ++ '~' :: '~' :: behind) =
      .closed (.strikethrough content) behind := by
  have found := splitAround?_append absent ['~'] behind
  simp only [List.cons_append, List.nil_append] at found
  simp only [close, found]

/-- The run that closes a bold stretch may close an italic at its end, too. -/
theorem close_bold
    (matched : StarsMatched ['*'] content)
    (nonempty : content ≠ [])
    (starts : content.head? ≠ some '*')
    (ends : behind.head? ≠ some '*') :
    close .bold (content ++ '*' :: '*' :: behind) = .closed (.bold content) behind := by
  obtain ⟨before, run, found, same⟩ := matched.splitStrong?_eq ends
  have noThird : Text.runLength '*' (content ++ '*' :: '*' :: behind) = 0 :=
    (run_eq_nil (by rwa [List.head?_append_of_ne_nil content nonempty])).1
  simp [close, found, noThird, same]

/-- An italic whose stars are matched in pairs is closed by a single star behind them. -/
theorem close_italic
    (matched : StarsMatched ['*', '*'] content)
    (ends : behind.head? ≠ some '*') :
    close .italic (content ++ '*' :: behind) = .closed (.italic content) behind := by
  have found := matched.splitItalic?_eq ends []
  simp only [List.reverse_nil, List.nil_append] at found
  simp only [close, found]

end Opener

namespace Piece

/-- A stretch whose closer is found is cut off in one piece, and no closer is spent. -/
theorem cut_of_close
    {text body rest : Text}
    {opener : Opener}
    {capture : Capture}
    (opened : Opener.at? text = some (opener, body))
    (closed : opener.close body = .closed capture rest) :
    cut [] text = .captured capture :: cut [] rest := by
  have found : Capture.next? [] text = (some (capture, rest), []) := by
    rw [Capture.next?, opened]
    simp [closed]
  cases text with
  | nil =>
      simp [Opener.at?] at opened
  | cons character later =>
      rw [cut]
      split <;> simp_all

/-- Characters that open nothing are pieces of their own. -/
theorem cut_append_of_unmarked
    {front : Text}
    (unmarked : ∀ character ∈ front, character ∉ markupCharacters)
    (behind : Text) :
    cut [] (front ++ behind) = front.map .literal ++ cut [] behind := by
  induction front with
  | nil =>
      rfl
  | cons character later inductionHypothesis =>
      obtain ⟨first, others⟩ := List.forall_mem_cons.mp unmarked
      have passed : Capture.next? [] (character :: (later ++ behind)) = (none, []) := by
        rw [Capture.next?, Opener.at?_eq_none first]
      rw [List.cons_append, cut]
      split <;> simp_all

end Piece

/-! ## What written spans are cut into -/

/-- The pieces that a span stands for in a text. -/
def Span.pieces : Span → List Piece
  | .text content => content.toList.map .literal
  | .bold content => [.captured (.bold (Span.writeAll content))]
  | .italic content => [.captured (.italic (Span.writeAll content))]
  | .strikethrough content => [.captured (.strikethrough (Span.writeAll content))]
  | .code content => [.captured (.code content.toList)]
  | .link url content => [.captured (.link (Span.writeAll content) url.toList)]
  | .image alt url => [.captured (.image alt.toList url.toList)]

namespace Span.Canonical

variable
    {around : List Closer}
    {span : Span}
    {behind : Text}

/-- A written span is cut off whole, whatever other text follows it. -/
theorem cut_write_append
    (canonical : span.Canonical around)
    (apart : span.isStarred → behind.head? ≠ some '*') :
    Piece.cut [] (span.write ++ behind) = span.pieces ++ Piece.cut [] behind := by
  cases span with
  | text content =>
      exact Piece.cut_append_of_unmarked (IsPlain.unmarked canonical) behind
  | code content =>
      have shape : (Span.code content).write ++ behind =
          '\x60' :: (content.toList ++ '\x60' :: behind) := by
        simp [Span.write]
      rw [shape]
      exact Piece.cut_of_close rfl (Opener.close_code (IsPlain.not_mem canonical (by decide)))
  | image alt url =>
      obtain ⟨_, plainAlt, plainUrl⟩ := canonical
      have found := splitTarget?_append (plainAlt.not_mem (by decide))
        (plainUrl.not_mem (by decide)) behind
      have shape : (Span.image alt url).write ++ behind =
          '!' :: '[' :: (alt.toList ++ ']' :: '(' :: (url.toList ++ ')' :: behind)) := by
        simp [Span.write]
      rw [shape]
      exact Piece.cut_of_close rfl (by simp only [Opener.close, found])
  | link url content =>
      obtain ⟨_, plainUrl, _, inside⟩ := canonical
      have found := splitTarget?_append (inside.bracket_not_mem_writeAll List.mem_cons_self)
        (plainUrl.not_mem (by decide)) behind
      have shape : (Span.link url content).write ++ behind =
          '[' :: (Span.writeAll content ++ ']' :: '(' :: (url.toList ++ ')' :: behind)) := by
        simp [Span.write]
      rw [shape]
      exact Piece.cut_of_close rfl (by simp only [Opener.close, found])
  | strikethrough content =>
      obtain ⟨_, _, inside⟩ := canonical
      have shape : (Span.strikethrough content).write ++ behind =
          '~' :: '~' :: (Span.writeAll content ++ '~' :: '~' :: behind) := by
        simp [Span.write]
      rw [shape]
      exact Piece.cut_of_close rfl
        (Opener.close_strikethrough (inside.tilde_not_mem_writeAll List.mem_cons_self))
  | bold content =>
      obtain ⟨_, nonempty, notStarred, inside⟩ := canonical
      have matched := Span.CanonicalAll.starsMatched_writeAll (.of_doubleStar around) content inside
      have shape : (Span.bold content).write ++ behind =
          '*' :: '*' :: (Span.writeAll content ++ '*' :: '*' :: behind) := by
        simp [Span.write]
      rw [shape]
      exact Piece.cut_of_close rfl (Opener.close_bold matched (inside.writeAll_ne_nil nonempty)
        (inside.head?_writeAll_ne_star notStarred) (apart rfl))
  | italic content =>
      obtain ⟨_, nonempty, notStarred, inside⟩ := canonical
      have matched := Span.CanonicalAll.starsMatched_writeAll (.of_star around) content inside
      have single : (Span.writeAll content ++ '*' :: behind).head? ≠ some '*' := by
        rw [List.head?_append_of_ne_nil _ (inside.writeAll_ne_nil nonempty)]
        exact inside.head?_writeAll_ne_star notStarred
      have shape : (Span.italic content).write ++ behind =
          '*' :: (Span.writeAll content ++ '*' :: behind) := by
        simp [Span.write]
      rw [shape]
      exact Piece.cut_of_close (Opener.at?_star single) (Opener.close_italic matched (apart rfl))

end Span.Canonical

/-- What canonical spans are written as is cut into their own pieces again. -/
theorem Span.CanonicalAll.cut_writeAll
    {around : List Closer}
    {spans : List Span}
    (canonical : Span.CanonicalAll around spans) :
    Piece.cut [] (Span.writeAll spans) = spans.flatMap Span.pieces := by
  induction spans with
  | nil =>
      simp [Span.writeAll, Piece.cut]
  | cons span rest inductionHypothesis =>
      obtain ⟨first, _, apart, later⟩ := canonical
      have behindApart (starred : span.isStarred) : (Span.writeAll rest).head? ≠ some '*' :=
        later.head?_writeAll_ne_star (apart starred)
      rw [Span.writeAll, first.cut_write_append behindApart, inductionHypothesis later,
        List.flatMap_cons]

/-! ## What the pieces are put together to -/

/-- The stretch that a span is read as. -/
def Span.toStretch : Span → Stretch
  | .text content => .literal content.toList
  | span => .formed span

@[simp] theorem Span.toSpan_toStretch
    (span : Span) :
    span.toStretch.toSpan = span := by
  cases span <;> simp [Span.toStretch, Stretch.toSpan]

/-- The spans inside a span. -/
def Span.inside : Span → List Span
  | .bold content => content
  | .italic content => content
  | .strikethrough content => content
  | .link _ content => content
  | _ => []

/-- Literal characters are put together where no literal stretch follows them. -/
theorem Piece.foldr_join_literal
    (read : Text → List Span)
    {characters : Text}
    (nonempty : characters ≠ [])
    {stretches : List Stretch}
    (apart : ∀ later, stretches.head? ≠ some (.literal later)) :
    (characters.map Piece.literal).foldr (Piece.join read) stretches =
      .literal characters :: stretches := by
  induction characters with
  | nil =>
      exact (nonempty rfl).elim
  | cons character rest inductionHypothesis =>
      cases rest with
      | nil =>
          cases stretches with
          | nil =>
              rfl
          | cons stretch others =>
              cases stretch with
              | literal later => exact (apart later rfl).elim
              | formed span => rfl
      | cons =>
          rw [List.map_cons, List.foldr_cons, inductionHypothesis (List.cons_ne_nil _ _)]
          rfl

theorem Span.format?_of_ne_nil
    (format : List Span → Span)
    {content : List Span}
    (nonempty : content ≠ []) :
    format? format content = some (format content) := by
  simp [format?, nonempty]

/-- The pieces of a span are put together to it again when what is inside is read back. -/
theorem Span.Canonical.foldr_join_pieces
    {around : List Closer}
    {span : Span}
    (canonical : span.Canonical around)
    {read : Text → List Span}
    (readsInside : read (Span.writeAll span.inside) = span.inside)
    {stretches : List Stretch}
    (apart : span.isText → ∀ later, stretches.head? ≠ some (.literal later)) :
    span.pieces.foldr (Piece.join read) stretches = span.toStretch :: stretches := by
  cases span with
  | text content =>
      exact Piece.foldr_join_literal read (IsPlain.toList_ne_nil canonical) (apart rfl)
  | code content =>
      have nonempty := IsPlain.toList_ne_nil canonical
      simp [Span.pieces, Piece.join, Capture.span?, nonempty, Span.toStretch]
  | image alt url =>
      simp [Span.pieces, Piece.join, Capture.span?, Span.toStretch]
  | link url content =>
      simp only [Span.inside] at readsInside
      simp [Span.pieces, Piece.join, Capture.span?, readsInside, Span.toStretch]
  | bold content | italic content =>
      obtain ⟨_, nonempty, _, _⟩ := canonical
      simp only [Span.inside] at readsInside
      simp [Span.pieces, Piece.join, Capture.span?, readsInside, Span.format?_of_ne_nil _ nonempty,
        Span.toStretch]
  | strikethrough content =>
      obtain ⟨_, nonempty, _⟩ := canonical
      simp only [Span.inside] at readsInside
      simp [Span.pieces, Piece.join, Capture.span?, readsInside, Span.format?_of_ne_nil _ nonempty,
        Span.toStretch]

/-- The pieces of canonical spans are joined to these, when the insides are read back. -/
theorem Span.CanonicalAll.foldr_join_pieces
    {around : List Closer}
    {spans : List Span}
    (canonical : Span.CanonicalAll around spans)
    {read : Text → List Span}
    (readsInside : ∀ span ∈ spans, read (Span.writeAll span.inside) = span.inside) :
    (spans.flatMap Span.pieces).foldr (Piece.join read) [] = spans.map Span.toStretch := by
  induction spans with
  | nil =>
      rfl
  | cons span rest inductionHypothesis =>
      obtain ⟨first, apart, _, later⟩ := canonical
      obtain ⟨readsFirst, readsLater⟩ := List.forall_mem_cons.mp readsInside
      have behindApart (isText : span.isText) (characters : Text) :
          (rest.map Span.toStretch).head? ≠ some (.literal characters) := by
        have notText := apart isText
        cases rest with
        | nil =>
            simp
        | cons next others =>
            cases next <;> simp_all [Span.toStretch, Span.isText]
      rw [List.flatMap_cons, List.foldr_append, inductionHypothesis later readsLater,
        first.foldr_join_pieces readsFirst behindApart, List.map_cons]

/-! ## Reading back -/

namespace Span

/-- Each of canonical spans is canonical. -/
theorem CanonicalAll.of_mem
    {around : List Closer}
    {spans : List Span}
    (canonical : CanonicalAll around spans)
    {span : Span}
    (member : span ∈ spans) :
    span.Canonical around := by
  induction spans with
  | nil =>
      cases member
  | cons first rest inductionHypothesis =>
      cases member with
      | head => exact canonical.1
      | tail _ later => exact inductionHypothesis canonical.2.2.2 later

/-- What is inside a canonical span is canonical among more closers. -/
theorem Canonical.exists_canonicalAll_inside
    {around : List Closer}
    {span : Span}
    (canonical : span.Canonical around) :
    ∃ closers, CanonicalAll closers span.inside := by
  cases span with
  | text | code | image =>
      exact ⟨[], trivial⟩
  | bold | italic | link =>
      exact ⟨_, canonical.2.2.2⟩
  | strikethrough =>
      exact ⟨_, canonical.2.2⟩

/-- What is inside a span nests one level less. -/
theorem depthAll_inside_le
    {levels : Nat}
    {span : Span}
    (shallow : span.depth ≤ levels + 1) :
    depthAll span.inside ≤ levels := by
  cases span with
  | text | code | image =>
      exact Nat.zero_le levels
  | bold | italic | strikethrough | link =>
      exact Nat.le_of_succ_le_succ shallow

/-- A span that does not nest has nothing inside. -/
theorem inside_eq_nil
    {span : Span}
    (shallow : span.depth ≤ 0) :
    span.inside = [] := by
  cases span with
  | text | code | image =>
      rfl
  | bold | italic | strikethrough | link =>
      exact (Nat.not_succ_le_zero _ shallow).elim

/-- Canonical spans are read back when what is inside them is, with one level less. -/
theorem CanonicalAll.readNested_writeAll_of_inside
    {levels : Nat}
    {around : List Closer}
    {spans : List Span}
    (canonical : CanonicalAll around spans)
    (readsInside : ∀ span ∈ spans, readNested levels (writeAll span.inside) = span.inside) :
    readNested (levels + 1) (writeAll spans) = spans := by
  have sameSpans : Stretch.toSpan ∘ toStretch = id :=
    funext toSpan_toStretch
  rw [readNested, canonical.cut_writeAll, canonical.foldr_join_pieces readsInside, List.map_map,
    sameSpans, List.map_id]

/-- Canonical spans are read back with a level more than they nest. -/
theorem CanonicalAll.readNested_writeAll
    {levels : Nat}
    {around : List Closer}
    {spans : List Span}
    (canonical : CanonicalAll around spans)
    (shallow : depthAll spans ≤ levels) :
    readNested (levels + 1) (writeAll spans) = spans := by
  induction levels generalizing around spans with
  | zero =>
      refine canonical.readNested_writeAll_of_inside fun span member => ?_
      rw [inside_eq_nil (depthAll_le_iff.mp shallow span member)]
      rfl
  | succ levels inductionHypothesis =>
      refine canonical.readNested_writeAll_of_inside fun span member => ?_
      obtain ⟨closers, canonicalInside⟩ := (canonical.of_mem member).exists_canonicalAll_inside
      exact inductionHypothesis canonicalInside
        (depthAll_inside_le (depthAll_le_iff.mp shallow span member))

/-- Canonical spans, written with their delimiters, are read back as they were. -/
theorem read_writeAll
    {spans : List Span}
    (canonical : CanonicalAll [] spans) :
    read (writeAll spans) = spans := by
  have bound := CanonicalAll.depthAll_add_length_le List.nodup_nil spans canonical
  have shallow : depthAll spans ≤ 31 :=
    Nat.le_trans bound (by decide)
  exact canonical.readNested_writeAll shallow

/-- Bold and italic share a run of stars at the end of both stretches here. -/
theorem read_writeAll_shared_run :
    read "**a~~*[`b`](u)*~~c*d***e*![f](v)**g***".toList =
      [.bold [.text "a", .strikethrough [.italic [.link "u" [.code "b"]]], .text "c",
          .italic [.text "d"]],
        .text "e", .italic [.image "f" "v", .bold [.text "g"]]] := by
  refine Eq.trans (congrArg read ?_) (read_writeAll (by decide))
  decide

end Span

end Guidebook
