import Guidebook.Span.Delimiter

namespace Guidebook

/-!
# Where captured stretches come from

Every search for a closer splits its text without losing a character.  So a
captured stretch, written with its delimiters, stands in the text right where
its opener was found, and reading on after it always has less text ahead.
-/

/-- A marker stands between what is before and what is after it. -/
theorem splitAround?_eq
    {marker text before after : Text}
    (found : text.splitAround? marker = some (before, after)) :
    text = before ++ marker ++ after := by
  induction text generalizing before with
  | nil =>
      simp [Text.splitAround?] at found
  | cons character rest inductionHypothesis =>
      rw [Text.splitAround?] at found
      split at found
      · next isPrefix =>
          simp only [Option.some.injEq, Prod.mk.injEq] at found
          obtain ⟨rfl, rfl⟩ := found
          obtain ⟨after, shape⟩ := List.isPrefixOf_iff_prefix.mp isPrefix
          rw [← shape]
          simp
      · obtain ⟨⟨before', after'⟩, foundLater, same⟩ :=
          Option.map_eq_some_iff.mp found
        simp only [Prod.mk.injEq] at same
        obtain ⟨rfl, rfl⟩ := same
        rw [inductionHypothesis foundLater]
        simp

/-- A label and a target that are split off stand in front with their closers. -/
theorem splitTarget?_eq
    {text label url rest : Text}
    (found : splitTarget? text = some (label, url, rest)) :
    text = label ++ [']', '('] ++ url ++ [')'] ++ rest := by
  unfold splitTarget? at found
  split at found
  · simp at found
  · next target foundLabel =>
      obtain ⟨⟨url', rest'⟩, foundUrl, same⟩ := Option.map_eq_some_iff.mp found
      simp only [Prod.mk.injEq] at same
      obtain ⟨rfl, rfl, rfl⟩ := same
      rw [splitAround?_eq foundLabel, splitAround?_eq foundUrl]
      simp

/-- A text starts with its run of a mark. -/
theorem eq_replicate_append_dropWhile
    (marker : Char)
    (text : Text) :
    text =
      List.replicate (Text.runLength marker text) marker ++
        text.dropWhile (· == marker) := by
  induction text with
  | nil =>
      rfl
  | cons character rest inductionHypothesis =>
      by_cases same : character = marker
      · subst same
        simp only [Text.runLength, ↓reduceIte, List.replicate_succ, List.cons_append,
          beq_self_eq_true, List.dropWhile_cons_of_pos]
        rw [← inductionHypothesis]
      · simp [Text.runLength, same]

private theorem cons_takeWhile
    (marker : Char)
    (text : Text) :
    marker :: text.takeWhile (· == marker) = text.takeWhile (· == marker) ++ [marker] := by
  induction text with
  | nil =>
      rfl
  | cons character rest inductionHypothesis =>
      by_cases same : character = marker
      · subst same
        simp only [beq_self_eq_true, List.takeWhile_cons_of_pos, List.cons_append]
        rw [← inductionHypothesis]
      · simp [same]

/-- The run that closes a bold stretch has two stars or more, all of which are there. -/
theorem splitStrong?_eq
    {text before after : Text}
    {run : Nat}
    (found : splitStrong? text = some (before, run, after)) :
    2 ≤ run ∧ text = before ++ List.replicate run '*' ++ after := by
  fun_induction splitStrong? text generalizing before with
  | case1 =>
      simp at found
  | case2 rest =>
      simp only [Option.some.injEq, Prod.mk.injEq] at found
      obtain ⟨rfl, rfl, rfl⟩ := found
      refine ⟨by omega, ?_⟩
      have whole := eq_replicate_append_dropWhile '*' rest
      simp only [List.replicate_succ, List.nil_append, List.cons_append]
      rw [← whole]
  | case3 character rest _ inductionHypothesis =>
      obtain ⟨⟨before', run', after'⟩, foundLater, same⟩ :=
        Option.map_eq_some_iff.mp found
      simp only [Prod.mk.injEq] at same
      obtain ⟨rfl, rfl, rfl⟩ := same
      obtain ⟨long, shape⟩ := inductionHypothesis foundLater
      refine ⟨long, ?_⟩
      rw [shape]
      simp

/--
The star that closes an italic stands between what is inside and what follows.
What was passed and the split at an open `**` must already agree with the text.
-/
theorem splitItalic?_eq
    {passed text inside after : Text}
    {pending : Option (Text × Text)}
    (agrees :
      ∀ split ∈ pending,
        passed.reverse ++ text = split.1.reverse ++ '*' :: split.2)
    (found : splitItalic? passed pending text = some (inside, after)) :
    passed.reverse ++ text = inside ++ '*' :: after := by
  fun_induction splitItalic? passed pending text with
  | case1 passed pending =>
      obtain ⟨split, isPending, same⟩ := Option.map_eq_some_iff.mp found
      simp only [Prod.mk.injEq] at same
      obtain ⟨rfl, rfl⟩ := same
      exact agrees split isPending
  | case2 passed pending rest isOpen =>
      simp only [Option.some.injEq, Prod.mk.injEq] at found
      obtain ⟨rfl, rfl⟩ := found
      have whole : rest.takeWhile (· == '*') ++ rest.dropWhile (· == '*') = rest :=
        List.takeWhile_append_dropWhile
      -- The run is closed by its last star; taking the first one off instead gives the same rest.
      calc passed.reverse ++ '*' :: '*' :: '*' :: rest
          = passed.reverse ++ '*' :: '*' ::
              (('*' :: rest.takeWhile (· == '*')) ++ rest.dropWhile (· == '*')) := by
            rw [List.cons_append, whole]
        _ = passed.reverse ++ '*' :: '*' ::
              ((rest.takeWhile (· == '*') ++ ['*']) ++ rest.dropWhile (· == '*')) := by
            rw [cons_takeWhile]
        _ = passed.reverse ++ '*' :: '*' :: rest.takeWhile (· == '*') ++
              '*' :: rest.dropWhile (· == '*') := by
            simp
  | case3 passed pending rest isShut =>
      simp only [Option.some.injEq, Prod.mk.injEq] at found
      obtain ⟨rfl, rfl⟩ := found
      rfl
  | case4 passed pending rest _ inductionHypothesis =>
      have shifted :
          ('*' :: '*' :: passed).reverse ++ rest =
            passed.reverse ++ '*' :: '*' :: rest := by
        simp
      rw [← shifted]
      refine inductionHypothesis ?_ found
      intro split isPending
      split at isPending
      · simp at isPending
      · simp only [Option.mem_def, Option.some.injEq] at isPending
        subst isPending
        exact shifted
  | case5 passed pending rest _ =>
      simp only [Option.some.injEq, Prod.mk.injEq] at found
      obtain ⟨rfl, rfl⟩ := found
      rfl
  | case6 passed pending character rest _ _ _ inductionHypothesis =>
      have shifted :
          (character :: passed).reverse ++ rest =
            passed.reverse ++ character :: rest := by
        simp
      rw [← shifted]
      refine inductionHypothesis ?_ found
      intro split isPending
      rw [shifted]
      exact agrees split isPending

/-- The characters that make up an opener. -/
def Opener.mark : Opener → Text
  | .image => ['!', '[']
  | .link => ['[']
  | .code => ['\x60']
  | .bold => ['*', '*']
  | .italic => ['*']
  | .strikethrough => ['~', '~']

/-- A captured stretch with its delimiters, as it stands in the text. -/
def Capture.source : Capture → Text
  | .image alt url => ['!', '['] ++ alt ++ [']', '('] ++ url ++ [')']
  | .link label url => ['['] ++ label ++ [']', '('] ++ url ++ [')']
  | .code content => ['\x60'] ++ content ++ ['\x60']
  | .bold content => ['*', '*'] ++ content ++ ['*', '*']
  | .italic content => ['*'] ++ content ++ ['*']
  | .strikethrough content => ['~', '~'] ++ content ++ ['~', '~']

/-- Every stretch has its marks at least. -/
theorem Capture.two_le_length_source
    (capture : Capture) :
    2 ≤ capture.source.length := by
  cases capture with
  | image | link | code | bold | italic | strikethrough =>
      simp only [source, List.length_append, List.length_cons, List.length_nil]
      omega

namespace Opener

theorem length_mark
    (opener : Opener) :
    0 < opener.mark.length ∧ opener.mark.length ≤ 2 := by
  cases opener <;> decide

/-- A text starts with the opener that is recognised there. -/
theorem at?_eq
    {text body : Text}
    {opener : Opener}
    (found : at? text = some (opener, body)) :
    text = opener.mark ++ body := by
  unfold at? at found
  split at found <;> simp only [Option.some.injEq, Prod.mk.injEq, reduceCtorEq] at found
  all_goals
    obtain ⟨rfl, rfl⟩ := found
    rfl

/-- What an opener and its closer enclose stands between them. -/
theorem close_eq
    {opener : Opener}
    {body rest : Text}
    {capture : Capture}
    (closed : opener.close body = .closed capture rest) :
    opener.mark ++ body = capture.source ++ rest := by
  cases opener with
  | image | link =>
      simp only [close] at closed
      split at closed
      · simp at closed
      · next found =>
          simp only [Closing.closed.injEq] at closed
          obtain ⟨rfl, rfl⟩ := closed
          rw [splitTarget?_eq found]
          simp [mark, Capture.source]
  | code | strikethrough =>
      simp only [close] at closed
      split at closed
      · simp at closed
      · next found =>
          simp only [Closing.closed.injEq] at closed
          obtain ⟨rfl, rfl⟩ := closed
          rw [splitAround?_eq found]
          simp [mark, Capture.source]
  | bold =>
      simp only [close] at closed
      split at closed
      · simp at closed
      · next run rest found =>
          split at closed
          · simp at closed
          · simp only [Closing.closed.injEq] at closed
            obtain ⟨rfl, rfl⟩ := closed
            obtain ⟨long, shape⟩ := splitStrong?_eq found
            -- The last two stars of the run close; the others stay inside.
            obtain ⟨inside, rfl⟩ := Nat.exists_eq_add_of_le' long
            rw [shape, ← List.replicate_append_replicate]
            simp [mark, Capture.source]
  | italic =>
      simp only [close] at closed
      split at closed
      · simp at closed
      · next found =>
          simp only [Closing.closed.injEq] at closed
          obtain ⟨rfl, rfl⟩ := closed
          have shape := splitItalic?_eq (by simp) found
          simp only [List.reverse_nil, List.nil_append] at shape
          rw [shape]
          simp [mark, Capture.source]

/-- Every opener takes at least one character. -/
theorem at?_length_lt
    {text body : Text}
    {opener : Opener}
    (found : at? text = some (opener, body)) :
    body.length < text.length := by
  have shape := congrArg List.length (at?_eq found)
  rw [List.length_append] at shape
  have marked := opener.length_mark
  omega

/-- What comes behind a closed stretch is no longer than what came behind its opener. -/
theorem close_length_le
    {opener : Opener}
    {body rest : Text}
    {capture : Capture}
    (closed : opener.close body = .closed capture rest) :
    rest.length ≤ body.length := by
  have shape := congrArg List.length (close_eq closed)
  rw [List.length_append, List.length_append] at shape
  have marked := opener.length_mark
  have enclosed := capture.two_le_length_source
  omega

end Opener

end Guidebook
