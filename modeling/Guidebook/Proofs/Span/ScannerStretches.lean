import Guidebook.Proofs.Span.Pieces
import Guidebook.Proofs.Span.ScannerSearches

namespace Guidebook.Scanner

open Scan

/-!
# Stretches found in place

At each place before a character the scanner finds the stretch that is captured there, with
the place right behind it.  At the places inside a character it finds none.  What it reads
one level down is the inside of that stretch, which is shorter than the text.
-/

/-- What is found where this is captured, when the insides read as given. -/
def Found.ofCaptured
    (reading : Text → List Span)
    (place : Nat)
    (captured : Option (Capture × Text) × List Closer) :
    Found :=
  (captured.1.map fun (capture, _) =>
    (place + capture.source.byteLength, capture.span? reading), captured.2)

/-- What is told of a part that is cut out and read one level down. -/
def insideEvents (telling : Text → List ScanEvent) (text : Text) (start : Nat) (content : Text) :
    List ScanEvent :=
  .sliced text start (start + content.byteLength) :: .descended text content :: telling content

/--
What is told of a stretch that is found at a place, when this is told of the insides: the
parts that are cut out for it, and its inside, where that is read one level down.
-/
def captureEvents (telling : Text → List ScanEvent) (text : Text) (place : Nat) :
    Capture → List ScanEvent
  | .image alt url =>
      let altEnd := place + 2 + alt.byteLength
      [.sliced text (place + 2) altEnd,
        .sliced text (altEnd + 2) (altEnd + 2 + url.byteLength)]
  | .link label url =>
      let labelEnd := place + 1 + label.byteLength
      .sliced text (labelEnd + 2) (labelEnd + 2 + url.byteLength) ::
        insideEvents telling text (place + 1) label
  | .code content => [.sliced text (place + 1) (place + 1 + content.byteLength)]
  | .bold content => insideEvents telling text (place + 2) content
  | .italic content => insideEvents telling text (place + 1) content
  | .strikethrough content => insideEvents telling text (place + 2) content

/-- What is told where this is captured; where nothing is, nothing is told. -/
def foundEvents (telling : Text → List ScanEvent) (text : Text) (place : Nat) :
    Option (Capture × Text) × List Closer → List ScanEvent
  | (none, _) => []
  | (some (capture, _), _) => captureEvents telling text place capture

variable
    {inside : Text → Scan (List Span)}
    {reading : Text → List Span}
    {telling : Text → List ScanEvent}
    {text ahead body : Text}
    {spent : List Closer}
    {place : Nat}

/-- A stretch is as long as what it holds and the marks of its kind. -/
theorem byteLength_source
    (capture : Capture) :
    capture.source.byteLength =
      match capture with
      | .image alt url => 2 + alt.byteLength + 2 + url.byteLength + 1
      | .link label url => 1 + label.byteLength + 2 + url.byteLength + 1
      | .code content => 1 + content.byteLength + 1
      | .bold content => 2 + content.byteLength + 2
      | .italic content => 1 + content.byteLength + 1
      | .strikethrough content => 2 + content.byteLength + 2 := by
  cases capture with
  | image | link | code | bold | italic | strikethrough =>
      simp only [Capture.source, Text.byteLength_append]
      rfl

/-- A stretch that is found ends where its source does. -/
theorem yields_captured
    {stop : Nat}
    (capture : Capture)
    (rest : Text)
    (left : List Closer)
    (reach : stop = place + capture.source.byteLength) :
    Yields (pure (some (stop, capture.span? reading), left))
      (Found.ofCaptured reading place (some (capture, rest), left)) [] := by
  rw [reach]
  exact yields_pure _

theorem yields_none
    (left : List Closer) :
    Yields (pure (none, left)) (Found.ofCaptured reading place (none, left)) [] :=
  yields_pure _

/-- What is captured by a search for a closer, and the closers that are spent behind it. -/
def capturedBy (spent : List Closer) (closer : Closer) :
    Closing → Option (Capture × Text) × List Closer
  | .closed capture rest => (some (capture, rest), spent)
  | .declined => (none, spent)
  | .missing => (none, closer :: spent)

/-- Behind an opener its closer is searched for, unless that is spent. -/
theorem next?_of_at?
    {opener : Opener}
    (opened : Opener.at? ahead = some (opener, body)) :
    Capture.next? spent ahead =
      if spent.contains opener.closer then
        (none, spent)
      else
        capturedBy spent opener.closer (opener.close body) := by
  rw [Capture.next?, opened]
  rfl

/-! ## What is read one level down -/

/-- What is read one level down is inside of a stretch, and so is shorter than the text. -/
theorem yields_note_descended
    {capture : Capture}
    {inner rest : Text}
    (here : text.IsAhead place (capture.source ++ rest))
    (shorter : inner.byteLength < capture.source.byteLength) :
    (note (.descended text inner)).Yields () [.descended text inner] := by
  refine yields_note ?_
  have whole := here.byteLength_eq
  rw [Text.byteLength_append] at whole
  show inner.byteLength < text.byteLength
  omega

/-- The inside of a stretch is read one level down, and told to be. -/
theorem yields_nested
    {capture : Capture}
    {inner rest : Text}
    (format : List Span → Span)
    (reads : ∀ inner, (inside inner).Yields (reading inner) (telling inner))
    (here : text.IsAhead place (capture.source ++ rest))
    (shorter : inner.byteLength < capture.source.byteLength) :
    (nested inside format text inner).Yields (Span.format? format (reading inner))
      (.descended text inner :: telling inner) :=
  (yields_note_descended here shorter).bind ((reads inner).bindSilent (yields_pure _))

/-- A stretch that holds spans of its own between two marks is cut out and read. -/
theorem yields_marked
    {capture : Capture}
    {mark content rest : Text}
    {format : List Span → Span}
    {start stop : Nat}
    (reads : ∀ inner, (inside inner).Yields (reading inner) (telling inner))
    (here : text.IsAhead place (capture.source ++ rest))
    (isSource : capture.source = mark ++ content ++ mark)
    (isSpan : capture.span? reading = Span.format? format (reading content))
    (positive : 0 < mark.byteLength)
    (isStart : start = place + mark.byteLength)
    (isStop : stop = start + content.byteLength + mark.byteLength) :
    Yields
      (do
        let inner ← slice text start (start + content.byteLength)
        let span ← nested inside format text inner
        pure (some (stop, span), spent))
      (Found.ofCaptured reading place (some (capture, rest), spent))
      (insideEvents telling text start content) := by
  have length : capture.source.byteLength =
      mark.byteLength + content.byteLength + mark.byteLength := by
    rw [isSource, Text.byteLength_append, Text.byteLength_append]
  have descended : (nested inside format text content).Yields _ _ :=
    yields_nested format reads here (by omega)
  rw [isSource] at here
  rw [← isSpan] at descended
  exact (yields_slice (here.enclosed isStart)).bind
    (descended.bindSilent (yields_captured capture rest spent (by omega)))

/-! ## The openers one by one -/

/-- The target of a link is found where its label and its target are split off. -/
theorem yields_linkTarget
    {labelStart : Nat}
    (here : text.IsAhead labelStart body) :
    (linkTarget text spent labelStart).Yields
      (if spent.contains .target then
        (none, spent)
      else
        match splitTarget? body with
        | none => (none, .target :: spent)
        | some (label, url, _) =>
            (some (labelStart + label.byteLength,
              labelStart + label.byteLength + 2 + url.byteLength), spent)) [] := by
  unfold linkTarget
  split
  · exact yields_pure _
  · refine (yields_findFrom here _).bind ?_
    rw [splitTarget?]
    cases found : body.splitAround? [']', '('] with
    | none =>
        exact yields_pure _
    | some split =>
        obtain ⟨label, target⟩ := split
        have shape := splitAround?_eq found
        rw [shape, List.append_assoc] at here
        have behind : text.IsAhead (labelStart + label.byteLength + 2) target :=
          (here.advance rfl).advance rfl
        refine (yields_findFrom behind _).bind ?_
        cases foundEnd : target.splitAround? [')'] with
        | none =>
            refine yields_pure_of_eq ?_
            simp only [foundEnd, Option.map_none]
        | some =>
            refine yields_pure_of_eq ?_
            simp only [foundEnd, Option.map_some]

/-- An image is found in place where one is captured. -/
theorem yields_image
    (here : text.IsAhead place ahead)
    (opened : Opener.at? ahead = some (.image, body)) :
    (image text spent place).Yields
      (Found.ofCaptured reading place (Capture.next? spent ahead))
      (foundEvents telling text place (Capture.next? spent ahead)) := by
  have atBody : text.IsAhead (place + 2) body :=
    (Opener.at?_eq opened ▸ here).advance rfl
  refine (yields_linkTarget atBody).bind ?_
  rw [next?_of_at? opened, Opener.closer]
  by_cases isSpent : spent.contains .target
  · simp only [if_pos isSpent]
    exact yields_none spent
  · simp only [if_neg isSpent, Opener.close]
    cases found : splitTarget? body with
    | none =>
        exact yields_none _
    | some split =>
        obtain ⟨alt, url, rest⟩ := split
        rw [splitTarget?_eq found] at atBody
        simp only [List.append_assoc] at atBody
        have atUrl : text.IsAhead (place + 2 + alt.byteLength + 2) (url ++ ([')'] ++ rest)) :=
          (atBody.advance rfl).advance rfl
        refine Yields.bind (yields_slice atBody) (Yields.bind (yields_slice atUrl)
          (yields_captured (.image alt url) rest spent ?_))
        simp only [byteLength_source]
        omega

theorem yields_link
    (reads : ∀ inner, (inside inner).Yields (reading inner) (telling inner))
    (here : text.IsAhead place ahead)
    (opened : Opener.at? ahead = some (.link, body)) :
    (link inside text spent place).Yields
      (Found.ofCaptured reading place (Capture.next? spent ahead))
      (foundEvents telling text place (Capture.next? spent ahead)) := by
  have marked := Opener.at?_eq opened
  have atBody : text.IsAhead (place + 1) body :=
    (marked ▸ here).advance rfl
  refine (yields_linkTarget atBody).bind ?_
  rw [next?_of_at? opened, Opener.closer]
  by_cases isSpent : spent.contains .target
  · simp only [if_pos isSpent]
    exact yields_none spent
  · simp only [if_neg isSpent]
    cases found : splitTarget? body with
    | none =>
        rw [Opener.close, found]
        exact yields_none _
    | some split =>
        obtain ⟨label, url, rest⟩ := split
        have closed : Opener.link.close body = .closed (.link label url) rest := by
          rw [Opener.close, found]
        rw [splitTarget?_eq found] at atBody
        simp only [List.append_assoc] at atBody
        have atUrl : text.IsAhead (place + 1 + label.byteLength + 2) (url ++ ([')'] ++ rest)) :=
          (atBody.advance rfl).advance rfl
        rw [marked, Opener.close_eq closed] at here
        rw [closed]
        have length : (Capture.link label url).source.byteLength =
            1 + label.byteLength + 2 + url.byteLength + 1 :=
          byteLength_source (.link label url)
        have descends : (note (.descended text label)).Yields () [.descended text label] :=
          yields_note_descended here (by omega)
        refine (yields_slice atUrl).bind ((yields_slice atBody).bind (descends.bind
          ((reads label).bindSilent (yields_captured (.link label url) rest spent ?_))))
        rw [length]
        omega

theorem yields_code
    (here : text.IsAhead place ahead)
    (opened : Opener.at? ahead = some (.code, body)) :
    (code text spent place).Yields
      (Found.ofCaptured reading place (Capture.next? spent ahead))
      (foundEvents telling text place (Capture.next? spent ahead)) := by
  rw [next?_of_at? opened, code, Opener.closer]
  split
  · exact yields_none spent
  · rw [Opener.at?_eq opened] at here
    have atBody : text.IsAhead (place + 1) body :=
      here.advance rfl
    refine (yields_findFrom atBody _).bind ?_
    rw [Opener.close]
    cases found : body.splitAround? ['\x60'] with
    | none =>
        exact yields_none _
    | some split =>
        obtain ⟨content, rest⟩ := split
        rw [splitAround?_eq found, List.append_assoc] at atBody
        refine (yields_slice atBody).bind (yields_captured (.code content) rest spent ?_)
        simp only [byteLength_source]
        omega

theorem yields_strikethrough
    (reads : ∀ inner, (inside inner).Yields (reading inner) (telling inner))
    (here : text.IsAhead place ahead)
    (opened : Opener.at? ahead = some (.strikethrough, body)) :
    (strikethrough inside text spent place).Yields
      (Found.ofCaptured reading place (Capture.next? spent ahead))
      (foundEvents telling text place (Capture.next? spent ahead)) := by
  rw [next?_of_at? opened, strikethrough, Opener.closer]
  split
  · exact yields_none spent
  · have marked := Opener.at?_eq opened
    have atBody : text.IsAhead (place + 2) body :=
      (marked ▸ here).advance rfl
    refine (yields_findFrom atBody _).bind ?_
    cases found : body.splitAround? ['~', '~'] with
    | none =>
        rw [Opener.close, found]
        exact yields_none _
    | some split =>
        obtain ⟨content, rest⟩ := split
        have closed : Opener.strikethrough.close body = .closed (.strikethrough content) rest := by
          rw [Opener.close, found]
        rw [marked, Opener.close_eq closed] at here
        rw [closed]
        exact yields_marked reads here rfl rfl (by decide) rfl rfl

/-- A bold stretch is found in place where one is captured, for openers of two stars or more. -/
theorem yields_bold
    (reads : ∀ inner, (inside inner).Yields (reading inner) (telling inner))
    (here : text.IsAhead place ahead)
    (opened : Opener.at? ahead = some (.bold, body)) :
    (bold inside text spent place (body.runLength '*' + 2)).Yields
      (Found.ofCaptured reading place (Capture.next? spent ahead))
      (foundEvents telling text place (Capture.next? spent ahead)) := by
  rw [next?_of_at? opened, bold, Opener.closer]
  split
  · exact yields_none spent
  · have marked := Opener.at?_eq opened
    have atBody : text.IsAhead (place + 2) body :=
      (marked ▸ here).advance rfl
    refine (yields_boldCloser place (body.runLength '*' + 2) atBody).bind ?_
    rw [BoldCloser.ofSplit_splitStrong?]
    cases found : splitStrong? body with
    | none =>
        rw [Opener.close, found]
        exact yields_none _
    | some split =>
        obtain ⟨before, closing, rest⟩ := split
        by_cases declines : body.runLength '*' = 1 ∧ closing = 2
        · rw [Opener.close, found]
          simp only [if_pos declines]
          exact yields_none spent
        · have closed : Opener.bold.close body =
              .closed (.bold (before ++ List.replicate (closing - 2) '*')) rest := by
            rw [Opener.close, found]
            exact if_neg declines
          obtain ⟨long, -⟩ := splitStrong?_eq found
          obtain ⟨shared, rfl⟩ := Nat.exists_eq_add_of_le' long
          rw [Nat.add_sub_cancel] at closed
          rw [marked, Opener.close_eq closed] at here
          have isContent : Text.byteLength (before ++ List.replicate shared '*') =
              before.byteLength + shared := by
            rw [Text.byteLength_append, Text.byteLength_replicate]
            exact congrArg _ (Nat.mul_one shared)
          have isClose : place + 2 + before.byteLength + (shared + 2) - 2 =
              place + 2 + Text.byteLength (before ++ List.replicate shared '*') := by
            omega
          simp only [if_neg declines, isClose]
          rw [closed]
          refine yields_marked reads here rfl rfl (by decide) rfl ?_
          rw [isContent]
          show _ = _ + 2
          omega

/-- An italic is found in place where one is captured. -/
theorem yields_italic
    (reads : ∀ inner, (inside inner).Yields (reading inner) (telling inner))
    (here : text.IsAhead place ahead)
    (opened : Opener.at? ahead = some (.italic, body)) :
    (italic inside text spent place).Yields
      (Found.ofCaptured reading place (Capture.next? spent ahead))
      (foundEvents telling text place (Capture.next? spent ahead)) := by
  rw [next?_of_at? opened, italic, Opener.closer]
  split
  · exact yields_none spent
  · have marked := Opener.at?_eq opened
    have atBody : text.IsAhead (place + 1) body :=
      (marked ▸ here).advance rfl
    have single := head?_ne_star (Opener.body_of_at?_italic opened)
    refine (yields_italicCloser_body atBody single).bind ?_
    cases found : splitItalic? [] none body with
    | none =>
        rw [Opener.close, found]
        exact yields_none _
    | some split =>
        obtain ⟨content, rest⟩ := split
        have closed : Opener.italic.close body = .closed (.italic content) rest := by
          rw [Opener.close, found]
        rw [marked, Opener.close_eq closed] at here
        rw [closed]
        exact yields_marked reads here rfl rfl (by decide) rfl rfl

/-! ## The stretch at a place -/

/-- At the byte that a character starts with, the stretch is found that opens there. -/
theorem yields_matchAt
    {character : Char}
    {rest : Text}
    (spent : List Closer)
    (reads : ∀ inner, (inside inner).Yields (reading inner) (telling inner))
    (here : text.IsAhead place (character :: rest)) :
    (matchAt inside text spent place).Yields
      (Found.ofCaptured reading place (Capture.next? spent (character :: rest)))
      (foundEvents telling text place (Capture.next? spent (character :: rest))) := by
  have inText : place < text.bytes.length := by
    have positive := character.utf8Size_pos
    have whole := here.byteLength_eq
    rw [Text.byteLength_cons] at whole
    show place < text.byteLength
    omega
  have isCode := List.getElem?_eq_getElem inText
  have first :
      ∀ marker : Char,
        marker.toNat < 128 →
        (text.bytes[place] = byte marker ↔ character = marker) := by
    intro marker ascii
    have same := here.getElem?_eq_byte_iff ascii
    rwa [isCode, Option.some_inj, List.head?_cons, Option.some_inj] at same
  have second :
      character.utf8Size = 1 →
      ∀ marker : Char,
        marker.toNat < 128 →
        (text.bytes[place + 1]? = some (byte marker) ↔ rest.head? = some marker) := by
    intro single marker ascii
    exact (single ▸ here.next).getElem?_eq_byte_iff ascii
  refine (yields_byteAt isCode).bind ?_
  split
  case isTrue isImage =>
    obtain rfl := (first '!' (by decide)).mp isImage.1
    obtain ⟨body, rfl⟩ := List.head?_eq_some_iff.mp ((second rfl '[' (by decide)).mp isImage.2)
    exact yields_image here rfl
  split
  case isTrue isLink =>
    obtain rfl := (first '[' (by decide)).mp isLink
    exact yields_link reads here rfl
  split
  case isTrue isBacktick =>
    obtain rfl := (first '\x60' (by decide)).mp isBacktick
    exact yields_code here rfl
  split
  case isTrue isStar =>
    obtain rfl := (first '*' (by decide)).mp isStar
    refine (yields_note_ahead here).bind ?_
    have count : starCount text place = rest.runLength '*' + 1 := by
      rw [starCount_eq here, Text.runLength, if_pos rfl]
    by_cases single : rest.head? = some '*'
    · obtain ⟨body, rfl⟩ := List.head?_eq_some_iff.mp single
      rw [Text.runLength, if_pos rfl] at count
      rw [count, if_pos (Nat.le_add_left 2 _)]
      exact yields_bold reads here rfl
    · rw [(run_eq_nil single).1] at count
      rw [count, if_neg (by decide)]
      exact yields_italic reads here (Opener.at?_star single)
  split
  case isTrue isStrikethrough =>
    obtain rfl := (first '~' (by decide)).mp isStrikethrough.1
    obtain ⟨body, rfl⟩ :=
      List.head?_eq_some_iff.mp ((second rfl '~' (by decide)).mp isStrikethrough.2)
    exact yields_strikethrough reads here rfl
  rename_i noImage noLink noBacktick noStar noStrikethrough
  have unopened : Opener.at? (character :: rest) = none := by
    rw [Option.eq_none_iff_forall_ne_some]
    rintro ⟨opener, body⟩ opened
    have marked := Opener.at?_eq opened
    cases opener with
    | image =>
        cases marked
        exact noImage ⟨(first '!' (by decide)).mpr rfl, (second rfl '[' (by decide)).mpr rfl⟩
    | link =>
        cases marked
        exact noLink ((first '[' (by decide)).mpr rfl)
    | code =>
        cases marked
        exact noBacktick ((first '\x60' (by decide)).mpr rfl)
    | bold | italic =>
        cases marked
        exact noStar ((first '*' (by decide)).mpr rfl)
    | strikethrough =>
        cases marked
        exact noStrikethrough
          ⟨(first '~' (by decide)).mpr rfl, (second rfl '~' (by decide)).mpr rfl⟩
  rw [Capture.next?, unopened]
  exact yields_none spent

/-- Inside a character of more than one byte there is no stretch. -/
theorem matchAt_of_large
    {code : UInt8}
    (isCode : text.bytes[place]? = some code)
    (large : 128 ≤ code.toNat) :
    matchAt inside text spent place = pure (none, spent) := by
  have other : ∀ marker : Char, (byte marker).toNat < 128 → code ≠ byte marker := by
    rintro marker small rfl
    exact Nat.not_le_of_lt small large
  have started : byteAt text place = pure code :=
    congrArg (Scan.mk []) isCode
  rw [matchAt, started]
  refine (andThen_of_eq_pure rfl).trans ?_
  beta_reduce
  rw [if_neg fun isImage => other '!' (by decide) isImage.1, if_neg (other '[' (by decide)),
    if_neg (other '\x60' (by decide)), if_neg (other '*' (by decide)),
    if_neg fun isStrikethrough => other '~' (by decide) isStrikethrough.1]

end Guidebook.Scanner
