import Guidebook.Proofs.Span.ScannerStretches

namespace Guidebook.Scanner

open Scan

/-!
# Reading in place is safe

The scanner reads every text, into the spans that the pieces of the text stand for.  What it
cuts on its way lies inside the text and between whole characters, the stretches that it
finds end behind their openers, and what it reads one level down is shorter each time.  And
its log is complete: it tells each stretch that the text is cut into, each part that is cut
out for a span, and each inside that is read one level down.
-/

/-! ## Literal text -/

/-- Some spans with literal characters behind them. -/
def pushed (spans : List Span) (characters : Text) : List Span :=
  if characters.isEmpty then spans else pushText spans characters

/-- Some spans with stretches behind them; texts that touch are joined. -/
def extend (spans : List Span) : List Stretch → List Span
  | .literal characters :: rest => pushText spans characters ++ rest.map Stretch.toSpan
  | stretches => spans ++ stretches.map Stretch.toSpan

/-- A text is pushed behind what is there already, whatever text it is. -/
theorem exists_pushText
    (spans : List Span)
    (characters : Text) :
    ∃ front content,
      pushText spans characters = front ++ [.text (content ++ String.ofList characters)] ∧
        ∀ others, pushText spans others = front ++ [.text (content ++ String.ofList others)] := by
  unfold pushText
  split
  · next content _ =>
      exact ⟨spans.dropLast, content, rfl, fun _ => rfl⟩
  · exact ⟨spans, "", by simp, fun _ => by simp⟩

/-- Two texts that are pushed one after the other are joined. -/
theorem pushText_pushText
    (spans : List Span)
    (characters more : Text) :
    pushText (pushText spans characters) more = pushText spans (characters ++ more) := by
  obtain ⟨front, content, isPushed, pushes⟩ := exists_pushText spans characters
  rw [isPushed, pushes, pushText, List.getLast?_concat]
  simp [String.append_assoc]

/-- Literal text that is longer by a character is pushed with that character. -/
theorem pushed_concat
    (spans : List Span)
    (characters : Text)
    (character : Char) :
    pushed spans (characters ++ [character]) = pushText (pushed spans characters) [character] := by
  cases characters with
  | nil =>
      rfl
  | cons first rest =>
      exact (pushText_pushText spans (first :: rest) [character]).symm

theorem extend_nil
    (spans : List Span) :
    extend spans [] = spans :=
  List.append_nil spans

/-- Without spans in front stretches are the spans that they stand for. -/
theorem nil_extend
    (stretches : List Stretch) :
    extend [] stretches = stretches.map Stretch.toSpan := by
  cases stretches with
  | nil =>
      rfl
  | cons stretch rest =>
      cases stretch with
      | literal | formed =>
          rfl

/-- A literal character in front of stretches is pushed behind the spans. -/
theorem extend_consLiteral
    (spans : List Span)
    (character : Char)
    (stretches : List Stretch) :
    extend spans (Stretch.consLiteral character stretches) =
      extend (pushText spans [character]) stretches := by
  cases stretches with
  | nil =>
      rfl
  | cons stretch rest =>
      cases stretch with
      | literal characters =>
          rw [Stretch.consLiteral, extend, extend, pushText_pushText]
          rfl
      | formed =>
          rfl

/-- A span that is no text stays apart from a text behind it. -/
theorem extend_formed
    {span : Span}
    (notText : ∀ content, span ≠ .text content)
    (spans : List Span)
    (stretches : List Stretch) :
    extend spans (.formed span :: stretches) = extend (spans ++ [span]) stretches := by
  cases stretches with
  | nil =>
      simp [extend, Stretch.toSpan]
  | cons stretch rest =>
      cases stretch with
      | formed =>
          simp [extend, Stretch.toSpan]
      | literal characters =>
          have behind : pushText (spans ++ [span]) characters =
              spans ++ [span] ++ [.text (String.ofList characters)] := by
            rw [pushText, List.getLast?_concat]
            split
            · next content isText =>
                exact absurd (Option.some_inj.mp isText) (notText content)
            · rfl
          simp [extend, Stretch.toSpan, behind]

/-- No stretch stands for a text. -/
theorem span?_ne_text
    {reading : Text → List Span}
    {capture : Capture}
    {span : Span}
    (isSpan : capture.span? reading = some span)
    (content : String) :
    span ≠ .text content := by
  rintro rfl
  cases capture with
  | image | link =>
      cases isSpan
  | code | bold | italic | strikethrough =>
      simp only [Capture.span?, Span.format?] at isSpan
      split at isSpan <;> cases isSpan

/-- A stretch in front of others is put behind the spans, if it stands for a span. -/
theorem extend_join
    (reading : Text → List Span)
    (capture : Capture)
    (spans : List Span)
    (stretches : List Stretch) :
    extend spans (Piece.join reading (.captured capture) stretches) =
      extend (spans ++ (capture.span? reading).toList) stretches := by
  cases isSpan : capture.span? reading with
  | none =>
      rw [Option.toList_none, List.append_nil, Piece.join, isSpan]
  | some span =>
      rw [Option.toList_some, ← extend_formed (span?_ne_text isSpan), Piece.join, isSpan]

/-! ## What the log holds -/

/-- What is told of literal text between two places; nothing is cut out where there is none. -/
def literalEvents (text : Text) (start stop : Nat) : List ScanEvent :=
  if stop ≤ start then [] else [.sliced text start stop]

/--
What is told of pieces of a text from a place on, behind a literal text that starts at
another one and is not ended yet, when this is told of the insides.
-/
def pieceEvents (telling : Text → List ScanEvent) (text : Text) (textStart place : Nat) :
    List Piece → List ScanEvent
  | [] => literalEvents text textStart place
  | .literal character :: rest =>
      pieceEvents telling text textStart (place + character.utf8Size) rest
  | .captured capture :: rest =>
      let stop := place + capture.source.byteLength
      captureEvents telling text place capture ++ .matched place stop ::
        (literalEvents text textStart place ++ pieceEvents telling text stop stop rest)

/-- What is told of a text that may still nest by so many levels. -/
def nestedEvents : Nat → Text → List ScanEvent
  | 0, _ => []
  | levels + 1, text => pieceEvents (nestedEvents levels) text 0 0 (Piece.cut [] text)

/-- What is told of a literal letter and an italic one behind it. -/
example :
    let text : Text := ['a', '*', 'b', '*']
    nestedEvents 2 text =
      [.sliced text 2 3, .descended text ['b'], .sliced ['b'] 0 1, .matched 1 4,
        .sliced text 0 1] := by
  cbv

/--
Of each stretch among some pieces it is told between which places it stands, besides what is
told of the stretch itself.
-/
theorem told_of_captured
    {telling : Text → List ScanEvent}
    {text : Text}
    (before behind : List Piece)
    (capture : Capture)
    (textStart place : Nat) :
    let start := place + Text.byteLength (before.flatMap Piece.source)
    let events := pieceEvents telling text textStart place (before ++ .captured capture :: behind)
    .matched start (start + capture.source.byteLength) ∈ events ∧
      captureEvents telling text start capture ⊆ events := by
  induction before generalizing textStart place with
  | nil =>
      simp [pieceEvents]
  | cons piece rest inductionHypothesis =>
      cases piece with
      | literal character =>
          have later := inductionHypothesis textStart (place + character.utf8Size)
          simpa [pieceEvents, Piece.source, Nat.add_assoc] using later
      | captured other =>
          -- What is told of the pieces behind a stretch comes behind what is told of it.
          have later := inductionHypothesis (place + other.source.byteLength)
            (place + other.source.byteLength)
          simp only [pieceEvents, List.cons_append, List.flatMap_cons, Piece.source,
            Text.byteLength_append, ← Nat.add_assoc] at later ⊢
          obtain ⟨isMatched, isTold⟩ := later
          refine ⟨?_, fun event member => ?_⟩
          · exact List.mem_append_right _ (List.mem_cons_of_mem _ (List.mem_append_right _ isMatched))
          · exact List.mem_append_right _
              (List.mem_cons_of_mem _ (List.mem_append_right _ (isTold member)))

/-! ## The scan of a text -/

variable
    {inside : Text → Scan (List Span)}
    {reading : Text → List Span}
    {telling : Text → List ScanEvent}
    {text literal ahead : Text}
    {spans : List Span}
    {spent : List Closer}
    {textStart place : Nat}

/-- Literal text is cut out where it ends. -/
theorem yields_flush
    (here : text.IsAhead textStart (literal ++ ahead)) :
    (flush text spans textStart (textStart + literal.byteLength)).Yields
      (pushed spans literal)
      (literalEvents text textStart (textStart + literal.byteLength)) := by
  cases literal with
  | nil =>
      rw [flush, if_pos (by simp), literalEvents, if_pos (by simp)]
      exact yields_pure _
  | cons character rest =>
      have positive := character.utf8Size_pos
      have notEmpty : ¬ textStart + Text.byteLength (character :: rest) ≤ textStart := by
        rw [Text.byteLength_cons]
        omega
      rw [flush, if_neg notEmpty, literalEvents, if_neg notEmpty]
      exact (yields_slice here).bindSilent (yields_pure _)

/-- The scan goes through a character of more than one byte without cutting it. -/
theorem run_succ_of_large
    {code : UInt8}
    (isCode : text.bytes[place]? = some code)
    (large : 128 ≤ code.toNat) :
    run inside text spans textStart spent place =
      run inside text spans textStart spent (place + 1) := by
  have inText : place < text.byteLength :=
    (List.getElem?_eq_some_iff.mp isCode).1
  rw [run, dif_pos inText, andThen_of_eq_pure (matchAt_of_large isCode large)]

/-- No stretch opens at a character of more than one byte. -/
theorem next?_of_large
    {character : Char}
    (large : 128 ≤ character.toNat)
    (rest : Text) :
    Capture.next? spent (character :: rest) = (none, spent) := by
  have unopened : Opener.at? (character :: rest) = none := by
    rw [Option.eq_none_iff_forall_ne_some]
    rintro ⟨opener, body⟩ opened
    have marked := Opener.at?_eq opened
    cases opener with
    | image | link | code | bold | italic | strikethrough =>
        cases marked
        exact absurd large (by decide)
  rw [Capture.next?, unopened]

/--
From every place before a character the scan goes on to the stretches that the rest of the
text is cut into.  The literal text that is not ended yet stands right before the place.
-/
theorem yields_run
    (reads : ∀ inner, (inside inner).Yields (reading inner) (telling inner))
    (here : text.IsAhead textStart (literal ++ ahead))
    (reach : place = textStart + literal.byteLength) :
    (run inside text spans textStart spent place).Yields
      (extend (pushed spans literal) ((Piece.cut spent ahead).foldr (Piece.join reading) []))
      (pieceEvents telling text textStart place (Piece.cut spent ahead)) := by
  fun_induction Piece.cut spent ahead generalizing spans textStart literal place with
  | case1 spent =>
      have atEnd := (here.advance reach).byteLength_eq
      rw [Text.byteLength_nil, Nat.add_zero] at atEnd
      rw [run, dif_neg (Nat.not_lt_of_le (Nat.le_of_eq atEnd)), atEnd, reach, List.foldr_nil,
        extend_nil, pieceEvents]
      exact yields_flush here
  | case2 spent character rest capture after left found inductionHypothesis =>
      have atAhead := here.advance reach
      have matched := yields_matchAt spent reads atAhead
      rw [found] at matched
      rw [run, dif_pos atAhead.lt_byteLength, List.foldr_cons, extend_join, pieceEvents]
      refine matched.andThen fun isResult => ?_
      have noted : (note (.matched place (place + capture.source.byteLength))).Yields () _ :=
        yields_note (ensures_matchAt _ isResult _ _ rfl)
      refine noted.bind ?_
      rw [reach]
      refine (yields_flush here).bind ?_
      rw [← reach]
      rw [Capture.next?_eq found] at atAhead
      have behind : text.IsAhead (place + capture.source.byteLength) ([] ++ after) :=
        atAhead.advance rfl
      exact inductionHypothesis behind rfl
  | case3 spent character rest left found inductionHypothesis =>
      have atAhead := here.advance reach
      have onward : text.IsAhead textStart (literal ++ [character] ++ rest) := by
        rwa [List.append_assoc]
      have reachOnward :
          place + character.utf8Size = textStart + Text.byteLength (literal ++ [character]) := by
        rw [reach, Text.byteLength_append, Nat.add_assoc]
        simp
      rw [List.foldr_cons, Piece.join, extend_consLiteral, ← pushed_concat, pieceEvents]
      have scanned :
          (run inside text spans textStart left (place + character.utf8Size)).Yields _ _ :=
        inductionHypothesis onward reachOnward
      by_cases ascii : character.toNat < 128
      · have matched := yields_matchAt spent reads atAhead
        rw [found] at matched
        rw [Text.utf8Size_of_ascii ascii] at scanned ⊢
        rw [run, dif_pos atAhead.lt_byteLength]
        exact matched.andThen fun _ => scanned
      · -- The scan steps through the bytes of the character and finds nothing inside it.
        have large := Nat.le_of_not_lt ascii
        rw [next?_of_large large] at found
        obtain rfl : spent = left :=
          congrArg Prod.snd found
        have skips : run inside text spans textStart spent place =
            run inside text spans textStart spent (place + character.utf8Size) :=
          atAhead.eq_behind_character fun inner code isCode member =>
            run_succ_of_large isCode (Text.le_of_mem_utf8EncodeChar large member)
        rw [skips]
        exact scanned

/-! ## All levels -/

/-- On every level the scanner reads a text into its spans, and tells what is told of them. -/
theorem yields_readNested
    (levels : Nat)
    (text : Text) :
    (readNested levels text).Yields (Span.readNested levels text) (nestedEvents levels text) := by
  induction levels generalizing text with
  | zero =>
      cases text with
      | nil | cons =>
          exact yields_pure _
  | succ levels inductionHypothesis =>
      cases text with
      | nil =>
          rw [readNested, Span.readNested, nestedEvents, Piece.cut]
          exact yields_pure _
      | cons character rest =>
          rw [readNested, Span.readNested, ← nil_extend]
          · have here : Text.IsAhead (character :: rest) 0 ([] ++ character :: rest) :=
              Text.isAhead_start (character :: rest)
            exact yields_run inductionHypothesis here rfl
          · exact List.cons_ne_nil character rest

/--
The scanner reads every text, although it steps from byte to byte, and reads the spans of
the text.  It takes only parts of a text that lie inside it and between whole characters,
each stretch that it closes ends behind its opener, and what it reads one level down is
strictly shorter than the text around it.
-/
theorem safe_read
    (text : Text) :
    (read text).result = some (Span.read text) ∧
      ∀ event ∈ (read text).events, event.Safe :=
  have yielded := yields_readNested Span.maxNesting text
  ⟨yielded.isResult, yielded.safe⟩

/--
The log leaves out nothing that is read.  Of each stretch that a text is cut into it tells
between which places the stretch stands and which parts are cut out for it and, where its
inside is read one level down, that it is, with all that is told of the inside in turn.
-/
theorem told_readNested
    {levels : Nat}
    {text : Text}
    {before behind : List Piece}
    {capture : Capture}
    (isCut : Piece.cut [] text = before ++ .captured capture :: behind) :
    let start := Text.byteLength (before.flatMap Piece.source)
    let events := (readNested (levels + 1) text).events
    .matched start (start + capture.source.byteLength) ∈ events ∧
      captureEvents (nestedEvents levels) text start capture ⊆ events := by
  have logged : nestedEvents (levels + 1) text ⊆ (readNested (levels + 1) text).events :=
    (yields_readNested (levels + 1) text).logged
  rw [nestedEvents, isCut] at logged
  obtain ⟨isMatched, isTold⟩ := told_of_captured before behind capture 0 0
  rw [Nat.zero_add] at isMatched isTold
  exact ⟨logged isMatched, List.Subset.trans isTold logged⟩

end Guidebook.Scanner
