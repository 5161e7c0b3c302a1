import Guidebook.Proofs.Text.Bytes
import Guidebook.Span.Reading

namespace Guidebook

/-!
# Reading inline markup in place

A text is scanned in its bytes, with places in them in place of the texts ahead.  The scan
steps from byte to byte, also inside a character, while it can only cut the text between
two characters.  It has no result when it cuts anywhere else, and it tells on its way what
it cuts, where a stretch that it opens is closed, and what it reads one level down.
-/

/-- What a scan does on its way. -/
inductive ScanEvent where
  /-- Takes the part of a text between two places. -/
  | sliced (text : Text) (start stop : Nat)
  /-- Closes a stretch that was opened at a place, and goes on at another one. -/
  | matched (opener stop : Nat)
  /-- Reads a part of a text one level down. -/
  | descended (outer inner : Text)
  deriving Repr, DecidableEq

/--
Parts of a text lie inside it and between whole characters, a stretch ends behind its
opener, and what is read one level down is shorter than the text around it.
-/
def ScanEvent.Safe : ScanEvent → Prop
  | .sliced text start stop =>
      start ≤ stop ∧ stop ≤ text.byteLength ∧ text.IsBoundary start ∧ text.IsBoundary stop
  | .matched opener stop => opener < stop
  | .descended outer inner => inner.byteLength < outer.byteLength

/-- The result of a scan, unless it fails, and what it does on its way. -/
structure Scan (α : Type) where
  events : List ScanEvent
  result : Option α

namespace Scan

/-- Goes on with the result of a scan, which is known to be its result. -/
def andThen (scan : Scan α) (next : (value : α) → scan.result = some value → Scan β) : Scan β :=
  match isResult : scan.result with
  | none => ⟨scan.events, none⟩
  | some value =>
      let rest := next value isResult
      ⟨scan.events ++ rest.events, rest.result⟩

instance : Monad Scan where
  pure value := ⟨[], some value⟩
  bind scan next := scan.andThen fun value _ => next value

/-- Tells something. -/
def note (event : ScanEvent) : Scan Unit :=
  ⟨[event], some ()⟩

/-- The part of a text between two places; the scan fails where this is no text. -/
def slice (text : Text) (start stop : Nat) : Scan Text :=
  ⟨[.sliced text start stop], text.byteSlice? start stop⟩

/-- The byte at a place of a text; the scan fails behind its end. -/
def byteAt (text : Text) (place : Nat) : Scan UInt8 :=
  ⟨[], text.bytes[place]?⟩

/-- Whatever results from a scan has a property. -/
def Ensures (scan : Scan α) (holds : α → Prop) : Prop :=
  ∀ value, scan.result = some value → holds value

/-- A scan that does nothing results in its value, and so in what holds of that. -/
theorem ensures_pure
    {value : α}
    {holds : α → Prop}
    (isSo : holds value) :
    Ensures (pure value) holds := by
  rintro _ ⟨⟩
  exact isSo

/-- What holds of every result of a scan may be used of the scan that goes on with it. -/
theorem Ensures.bind
    {scan : Scan α}
    {next : α → Scan β}
    {first : α → Prop}
    {holds : β → Prop}
    (ensured : scan.Ensures first)
    (goesOn : ∀ value, first value → (next value).Ensures holds) :
    (scan >>= next).Ensures holds := by
  intro value isResult
  change (scan.andThen fun value _ => next value).result = some value at isResult
  unfold andThen at isResult
  split at isResult
  · cases isResult
  · next found isFound =>
      exact goesOn found (ensured found isFound) value isResult

/-- What the second scan ensures behind any value, both ensure. -/
theorem ensures_bind
    {scan : Scan α}
    {next : α → Scan β}
    {holds : β → Prop}
    (goesOn : ∀ value, (next value).Ensures holds) :
    (scan >>= next).Ensures holds := by
  have always : scan.Ensures fun _ => True :=
    fun _ _ => trivial
  exact always.bind fun value _ => goesOn value

/-- Behind a scan that does nothing the next one runs as it is. -/
theorem andThen_of_eq_pure
    {scan : Scan α}
    {value : α}
    {next : (value : α) → scan.result = some value → Scan β}
    (isPure : scan = pure value) :
    scan.andThen next = next value (congrArg Scan.result isPure) := by
  subst isPure
  rfl

/--
A scan results in a value, all that it does on its way is safe, and some events that are
told of it stand in its log.
-/
structure Yields (scan : Scan α) (value : α) (told : List ScanEvent) : Prop where
  isResult : scan.result = some value
  safe : ∀ event ∈ scan.events, event.Safe
  logged : told ⊆ scan.events

/-- A scan that does nothing results in its value and tells nothing. -/
theorem yields_pure
    (value : α) :
    Yields (pure value) value [] :=
  ⟨rfl, nofun, List.nil_subset _⟩

theorem yields_pure_of_eq
    {value result : α}
    (same : value = result) :
    Yields (pure value) result [] :=
  same ▸ yields_pure value

/-- A scan that goes on with another one keeps its log, and has that of the other behind it. -/
theorem Yields.andThen
    {scan : Scan α}
    {value : α}
    {next : (value : α) → scan.result = some value → Scan β}
    {result : β}
    {told toldBehind : List ScanEvent}
    (yielded : scan.Yields value told)
    (goesOn : ∀ isResult, (next value isResult).Yields result toldBehind) :
    (scan.andThen next).Yields result (told ++ toldBehind) := by
  have onward := goesOn yielded.isResult
  unfold Scan.andThen
  split
  · next failed =>
      rw [yielded.isResult] at failed
      cases failed
  · next found isFound =>
      obtain rfl := Option.some_inj.mp (isFound.symm.trans yielded.isResult)
      refine ⟨onward.isResult, List.forall_mem_append.mpr ⟨yielded.safe, onward.safe⟩, ?_⟩
      exact List.append_subset.mpr
        ⟨List.subset_append_of_subset_left _ yielded.logged,
          List.subset_append_of_subset_right _ onward.logged⟩

/-- A scan yields when its parts do, and the log holds what is told of both. -/
theorem Yields.bind
    {scan : Scan α}
    {value : α}
    {next : α → Scan β}
    {result : β}
    {told toldBehind : List ScanEvent}
    (yielded : scan.Yields value told)
    (goesOn : (next value).Yields result toldBehind) :
    (scan >>= next).Yields result (told ++ toldBehind) :=
  yielded.andThen fun _ => goesOn

/-- What is told of a scan is told as well when it goes on with one of which nothing is told. -/
theorem Yields.bindSilent
    {scan : Scan α}
    {value : α}
    {next : α → Scan β}
    {result : β}
    {told : List ScanEvent}
    (yielded : scan.Yields value told)
    (goesOn : (next value).Yields result []) :
    (scan >>= next).Yields result told := by
  have onward := yielded.bind goesOn
  rwa [List.append_nil] at onward

/-- What a scan notes stands in its log. -/
theorem yields_note
    {event : ScanEvent}
    (safe : event.Safe) :
    (note event).Yields () [event] :=
  ⟨rfl, List.forall_mem_singleton.mpr safe, List.Subset.refl _⟩

variable {text ahead middle behind : Text} {place : Nat}

/-- A part of a text that can be taken at all lies inside it and between characters. -/
theorem safe_of_byteSlice?
    {start stop : Nat}
    (isText : text.byteSlice? start stop = some middle) :
    (ScanEvent.sliced text start stop).Safe :=
  Text.isSome_byteSlice?_iff.mp (Option.isSome_of_eq_some isText)

/-- A look at all that is ahead of a place is safe. -/
theorem yields_note_ahead
    (here : text.IsAhead place ahead) :
    (note (.sliced text place text.byteLength)).Yields () [] :=
  ⟨rfl, List.forall_mem_singleton.mpr (safe_of_byteSlice? here.byteSlice?_eq), List.nil_subset _⟩

/-- A part of a text that is taken stands in the log with the places it lies between. -/
theorem yields_slice
    (here : text.IsAhead place (middle ++ behind)) :
    (slice text place (place + middle.byteLength)).Yields middle
      [.sliced text place (place + middle.byteLength)] := by
  have isText := Text.byteSlice?_eq_some_iff.mpr ⟨behind, here, rfl⟩
  exact ⟨isText, List.forall_mem_singleton.mpr (safe_of_byteSlice? isText), List.Subset.refl _⟩

/-- Looking at a byte of the text leaves no trace. -/
theorem yields_byteAt
    {code : UInt8}
    (isCode : text.bytes[place]? = some code) :
    (byteAt text place).Yields code [] :=
  ⟨isCode, nofun, List.nil_subset _⟩

end Scan

namespace Scanner

open Scan

/-! ## Searches for a closer -/

/-- The place where a marker next stands, from some place on. -/
def findFrom (text : Text) (start : Nat) (marker : Text) : Scan (Option Nat) := do
  note (.sliced text start text.byteLength)
  pure <| (text.byteSlice? start text.byteLength).bind fun ahead =>
    (ahead.splitAround? marker).map fun (before, _) => start + before.byteLength

/-- The number of stars from some place on. -/
def starCount (text : Text) (start : Nat) : Nat :=
  ((text.bytes.drop start).takeWhile (· == byte '*')).length

/-- At a star there is at least one star. -/
theorem starCount_pos
    {text : Text}
    {start : Nat}
    (star : text.bytes[start]? = some (byte '*')) :
    0 < starCount text start := by
  obtain ⟨inText, isStar⟩ := List.getElem?_eq_some_iff.mp star
  rw [starCount, List.drop_eq_getElem_cons inText, isStar, List.takeWhile_cons_of_pos (by simp)]
  exact Nat.succ_pos _

/-- What the search for the closer of a bold stretch comes to. -/
inductive BoldCloser where
  /-- The run at a place, of so many stars, closes the stretch. -/
  | run (place stars : Nat)
  /-- The stretch that opens one star later is closed instead. -/
  | declined
  | missing
  deriving Repr, DecidableEq

/-- Searches for the run that closes a bold stretch with an opener of so many stars. -/
def boldCloser (text : Text) (opener stars place : Nat) : Scan BoldCloser :=
  if _inText : place < text.byteLength then
    if _star : text.bytes[place]? = some (byte '*') then do
      note (.sliced text place text.byteLength)
      if 2 ≤ starCount text place then
        if 3 ≤ stars ∧ starCount text place = 2 ∧ opener + stars < place then
          pure .declined
        else
          pure (.run place (starCount text place))
      else
        boldCloser text opener stars (place + starCount text place)
    else
      boldCloser text opener stars (place + 1)
  else
    pure .missing
termination_by text.byteLength - place
decreasing_by
  · have positive := starCount_pos _star
    omega
  · omega

/-- Searches for the star that closes an italic, in which a bold stretch may be open. -/
def italicCloser (text : Text) (openBold : Option Nat) (place : Nat) : Scan (Option Nat) :=
  if _inText : place < text.byteLength then
    if _star : text.bytes[place]? = some (byte '*') then do
      note (.sliced text place text.byteLength)
      if starCount text place = 1 then
        pure (some place)
      else if starCount text place = 2 then
        italicCloser text (if openBold.isSome then none else some place)
          (place + starCount text place)
      else if openBold.isSome then
        pure (some (place + starCount text place - 1))
      else
        pure (some place)
    else
      italicCloser text openBold (place + 1)
  else
    pure openBold
termination_by text.byteLength - place

/-! ## Stretches -/

/-- Where a stretch ends and its span, when there is a stretch, and the closers that are spent. -/
abbrev Found : Type :=
  Option (Nat × Option Span) × List Closer

variable (inside : Text → Scan (List Span))

/-- The span of a text that is read one level down; nothing has no format. -/
def nested (format : List Span → Span) (text inner : Text) : Scan (Option Span) := do
  note (.descended text inner)
  let content ← inside inner
  pure (Span.format? format content)

/-- The places where the label and the target behind it end. -/
def linkTarget (text : Text) (spent : List Closer) (labelStart : Nat) :
    Scan (Option (Nat × Nat) × List Closer) :=
  if spent.contains .target then
    pure (none, spent)
  else do
    match ← findFrom text labelStart [']', '('] with
    | none => pure (none, .target :: spent)
    | some labelEnd =>
        match ← findFrom text (labelEnd + 2) [')'] with
        | none => pure (none, .target :: spent)
        | some targetEnd => pure (some (labelEnd, targetEnd), spent)

/-- The image that opens at a place. -/
def image (text : Text) (spent : List Closer) (place : Nat) : Scan Found := do
  match ← linkTarget text spent (place + 2) with
  | (none, left) => pure (none, left)
  | (some (labelEnd, targetEnd), left) =>
      let alt ← slice text (place + 2) labelEnd
      let url ← slice text (labelEnd + 2) targetEnd
      pure (some (targetEnd + 1, some (.image (String.ofList alt) (String.ofList url))), left)

/-- The link that opens at a place. -/
def link (text : Text) (spent : List Closer) (place : Nat) : Scan Found := do
  match ← linkTarget text spent (place + 1) with
  | (none, left) => pure (none, left)
  | (some (labelEnd, targetEnd), left) =>
      let url ← slice text (labelEnd + 2) targetEnd
      let label ← slice text (place + 1) labelEnd
      note (.descended text label)
      let content ← inside label
      pure (some (targetEnd + 1, some (.link (String.ofList url) content)), left)

/-- The code that opens at a place. -/
def code (text : Text) (spent : List Closer) (place : Nat) : Scan Found :=
  if spent.contains .backtick then
    pure (none, spent)
  else do
    match ← findFrom text (place + 1) ['\x60'] with
    | none => pure (none, .backtick :: spent)
    | some close =>
        let content ← slice text (place + 1) close
        let span := if content.isEmpty then none else some (.code (String.ofList content))
        pure (some (close + 1, span), spent)

/-- The strikethrough that opens at a place. -/
def strikethrough (text : Text) (spent : List Closer) (place : Nat) : Scan Found :=
  if spent.contains .doubleTilde then
    pure (none, spent)
  else do
    match ← findFrom text (place + 2) ['~', '~'] with
    | none => pure (none, .doubleTilde :: spent)
    | some close =>
        let inner ← slice text (place + 2) close
        let span ← nested inside .strikethrough text inner
        pure (some (close + 2, span), spent)

/-- The bold stretch that a run of so many stars opens at a place. -/
def bold (text : Text) (spent : List Closer) (place stars : Nat) : Scan Found :=
  if spent.contains .doubleStar then
    pure (none, spent)
  else do
    match ← boldCloser text place stars (place + 2) with
    | .missing => pure (none, .doubleStar :: spent)
    | .declined => pure (none, spent)
    | .run close closing =>
        let inner ← slice text (place + 2) (close + closing - 2)
        let span ← nested inside .bold text inner
        pure (some (close + closing, span), spent)

/-- The italic that a star opens at a place. -/
def italic (text : Text) (spent : List Closer) (place : Nat) : Scan Found :=
  if spent.contains .star then
    pure (none, spent)
  else do
    match ← italicCloser text none (place + 2) with
    | none => pure (none, .star :: spent)
    | some close =>
        let inner ← slice text (place + 1) close
        let span ← nested inside .italic text inner
        pure (some (close + 1, span), spent)

/-- The stretch that opens at a place, by the byte there and the one behind it. -/
def matchAt (text : Text) (spent : List Closer) (place : Nat) : Scan Found := do
  let first ← byteAt text place
  if first = byte '!' ∧ text.bytes[place + 1]? = some (byte '[') then
    image text spent place
  else if first = byte '[' then
    link inside text spent place
  else if first = byte '\x60' then
    code text spent place
  else if first = byte '*' then
    note (.sliced text place text.byteLength)
    if 2 ≤ starCount text place then
      bold inside text spent place (starCount text place)
    else
      italic inside text spent place
  else if first = byte '~' ∧ text.bytes[place + 1]? = some (byte '~') then
    strikethrough inside text spent place
  else
    pure (none, spent)

/-! ## A stretch ends behind its opener -/

/-- A marker is found no earlier than the search for it starts. -/
theorem ensures_findFrom
    (text : Text)
    (start : Nat)
    (marker : Text) :
    (findFrom text start marker).Ensures fun found => ∀ place ∈ found, start ≤ place := by
  refine ensures_bind fun _ => ensures_pure ?_
  intro place isFound
  obtain ⟨ahead, -, isFound⟩ := Option.bind_eq_some_iff.mp isFound
  obtain ⟨⟨before, after⟩, -, rfl⟩ := Option.map_eq_some_iff.mp isFound
  exact Nat.le_add_right _ _

/-- A bold stretch is closed by two stars at least, no earlier than the search starts. -/
theorem ensures_boldCloser
    (text : Text)
    (opener stars start : Nat) :
    (boldCloser text opener stars start).Ensures fun closer =>
      ∀ place closing, closer = .run place closing → start ≤ place ∧ 2 ≤ closing := by
  fun_induction boldCloser text opener stars start with
  | case1 start inText star inductionHypothesis =>
      refine ensures_bind fun _ => ?_
      split
      · next long =>
          split
          · exact ensures_pure fun place closing => nofun
          · refine ensures_pure ?_
            rintro _ _ ⟨⟩
            exact ⟨Nat.le_refl _, long⟩
      · next short =>
        intro closer isCloser place closing isRun
        have bounds := inductionHypothesis short closer isCloser place closing isRun
        exact ⟨by omega, bounds.2⟩
  | case2 start inText noStar inductionHypothesis =>
      intro closer isCloser place closing isRun
      have bounds := inductionHypothesis closer isCloser place closing isRun
      exact ⟨by omega, bounds.2⟩
  | case3 start atEnd =>
      exact ensures_pure fun place closing => nofun

/-- An italic is closed where the search has come to, or where a bold stretch was opened. -/
theorem ensures_italicCloser
    (text : Text)
    (openBold : Option Nat)
    (start : Nat) :
    (italicCloser text openBold start).Ensures fun closer =>
      ∀ place ∈ closer, start ≤ place ∨ place ∈ openBold := by
  fun_induction italicCloser text openBold start with
  | case1 openBold start inText star inductionHypothesis =>
      refine ensures_bind fun _ => ?_
      split
      · refine ensures_pure ?_
        rintro _ ⟨⟩
        exact .inl (Nat.le_refl _)
      · split
        · next isPair =>
            intro closer isCloser place isPlace
            have bounds := inductionHypothesis isPair closer isCloser place isPlace
            rcases bounds with behind | isOpened
            · exact .inl (by omega)
            · split at isOpened
              · cases isOpened
              · cases isOpened
                exact .inl (Nat.le_refl _)
        · split
          · refine ensures_pure ?_
            rintro _ ⟨⟩
            have positive := starCount_pos star
            exact .inl (by omega)
          · refine ensures_pure ?_
            rintro _ ⟨⟩
            exact .inl (Nat.le_refl _)
  | case2 openBold start inText noStar inductionHypothesis =>
      intro closer isCloser place isPlace
      have bounds := inductionHypothesis closer isCloser place isPlace
      exact bounds.imp_left fun behind => by omega
  | case3 openBold start atEnd =>
      exact ensures_pure fun place isPlace => .inr isPlace

/-- Where there is a stretch, it ends behind a place. -/
def Found.EndsBehind (place : Nat) (found : Found) : Prop :=
  ∀ stop span, found.1 = some (stop, span) → place < stop

variable {inside : Text → Scan (List Span)} {text : Text} {spent : List Closer} {place : Nat}

theorem ensures_none
    (left : List Closer) :
    Ensures (pure (none, left)) (Found.EndsBehind place) :=
  ensures_pure fun _ _ => nofun

/-- A stretch that stops behind a place ends behind it. -/
theorem ensures_some
    {stop : Nat}
    (behind : place < stop)
    (span : Option Span)
    (left : List Closer) :
    Ensures (pure (some (stop, span), left)) (Found.EndsBehind place) := by
  refine ensures_pure ?_
  rintro _ _ ⟨⟩
  exact behind

/-- The target of a link ends behind the start of its label. -/
theorem ensures_linkTarget
    (labelStart : Nat) :
    (linkTarget text spent labelStart).Ensures fun target =>
      ∀ labelEnd targetEnd, target.1 = some (labelEnd, targetEnd) → labelStart < targetEnd := by
  unfold linkTarget
  split
  · exact ensures_pure fun _ _ => nofun
  · refine (ensures_findFrom text labelStart _).bind fun found bound => ?_
    cases found with
    | none =>
        exact ensures_pure fun _ _ => nofun
    | some labelEnd =>
        refine (ensures_findFrom text (labelEnd + 2) _).bind fun found boundBehind => ?_
        cases found with
        | none =>
            exact ensures_pure fun _ _ => nofun
        | some targetEnd =>
            refine ensures_pure ?_
            rintro _ _ ⟨⟩
            have labelBound := bound _ rfl
            have targetBound := boundBehind _ rfl
            omega

theorem ensures_image :
    (image text spent place).Ensures (Found.EndsBehind place) := by
  refine (ensures_linkTarget (place + 2)).bind fun target bound => ?_
  obtain ⟨_ | ⟨labelEnd, targetEnd⟩, left⟩ := target
  · exact ensures_none left
  · have targetBound := bound _ _ rfl
    exact ensures_bind fun _ => ensures_bind fun _ => ensures_some (by omega) _ left

/-- A link ends behind its opener. -/
theorem ensures_link :
    (link inside text spent place).Ensures (Found.EndsBehind place) := by
  refine (ensures_linkTarget (place + 1)).bind fun target bound => ?_
  obtain ⟨_ | ⟨labelEnd, targetEnd⟩, left⟩ := target
  · exact ensures_none left
  · have targetBound := bound _ _ rfl
    exact ensures_bind fun _ => ensures_bind fun _ => ensures_bind fun _ => ensures_bind fun _ =>
      ensures_some (by omega) _ left

theorem ensures_code :
    (code text spent place).Ensures (Found.EndsBehind place) := by
  unfold code
  split
  · exact ensures_none spent
  · refine (ensures_findFrom text (place + 1) _).bind fun found bound => ?_
    cases found with
    | none =>
        exact ensures_none _
    | some close =>
        have closeBound := bound _ rfl
        exact ensures_bind fun _ => ensures_some (by omega) _ spent

theorem ensures_strikethrough :
    (strikethrough inside text spent place).Ensures (Found.EndsBehind place) := by
  unfold strikethrough
  split
  · exact ensures_none spent
  · refine (ensures_findFrom text (place + 2) _).bind fun found bound => ?_
    cases found with
    | none =>
        exact ensures_none _
    | some close =>
        have closeBound := bound _ rfl
        exact ensures_bind fun _ => ensures_bind fun _ => ensures_some (by omega) _ spent

/-- A bold stretch ends behind its opener, since its closer has two stars at least. -/
theorem ensures_bold
    (stars : Nat) :
    (bold inside text spent place stars).Ensures (Found.EndsBehind place) := by
  unfold bold
  split
  · exact ensures_none spent
  · refine (ensures_boldCloser text place stars (place + 2)).bind fun closer bound => ?_
    cases closer with
    | missing | declined =>
        exact ensures_none _
    | run close closing =>
        have closeBound := bound _ _ rfl
        exact ensures_bind fun _ => ensures_bind fun _ => ensures_some (by omega) _ spent

/-- An italic ends behind its opener, as no bold stretch is open when its search starts. -/
theorem ensures_italic :
    (italic inside text spent place).Ensures (Found.EndsBehind place) := by
  unfold italic
  split
  · exact ensures_none spent
  · refine (ensures_italicCloser text none (place + 2)).bind fun closer bound => ?_
    cases closer with
    | none =>
        exact ensures_none _
    | some close =>
        have closeBound := (bound _ rfl).resolve_right nofun
        exact ensures_bind fun _ => ensures_bind fun _ => ensures_some (by omega) _ spent

/-- Whatever stretch is found at a place ends behind it, so that the scan goes on. -/
theorem ensures_matchAt :
    (matchAt inside text spent place).Ensures (Found.EndsBehind place) := by
  refine ensures_bind fun first => ?_
  split
  · exact ensures_image
  split
  · exact ensures_link
  split
  · exact ensures_code
  split
  · refine ensures_bind fun _ => ?_
    split
    · exact ensures_bold _
    · exact ensures_italic
  split
  · exact ensures_strikethrough
  · exact ensures_none spent

/-! ## The scan of a text -/

variable (inside : Text → Scan (List Span)) (text : Text)

/-- Puts a text behind some spans, joined to a text that they end with. -/
def pushText (spans : List Span) (characters : Text) : List Span :=
  match spans.getLast? with
  | some (.text content) => spans.dropLast ++ [.text (content ++ String.ofList characters)]
  | _ => spans ++ [.text (String.ofList characters)]

/-- Ends the literal text that starts at a place, when there is any up to another one. -/
def flush (spans : List Span) (textStart place : Nat) : Scan (List Span) :=
  if place ≤ textStart then
    pure spans
  else do
    let characters ← slice text textStart place
    pure (pushText spans characters)

/-- Scans a text from a place on, behind some spans and a literal text that is not ended yet. -/
def run (spans : List Span) (textStart : Nat) (spent : List Closer) (place : Nat) :
    Scan (List Span) :=
  if _inText : place < text.byteLength then
    (matchAt inside text spent place).andThen fun found _isFound =>
      match found with
      | (none, left) => run spans textStart left (place + 1)
      | (some (stop, span), left) => do
          note (.matched place stop)
          let ended ← flush text spans textStart place
          run (ended ++ span.toList) stop left stop
  else
    flush text spans textStart text.byteLength
termination_by text.byteLength - place
decreasing_by
  · omega
  · have behind := ensures_matchAt _ _isFound stop span rfl
    omega

/-- Scans a text that may still nest by so many levels. -/
def readNested : Nat → Text → Scan (List Span)
  | _, [] => pure []
  | 0, text => pure [.text (String.ofList text)]
  | levels + 1, text => run (readNested levels) text [] 0 [] 0

/-- Scans a text. -/
def read (text : Text) : Scan (List Span) :=
  readNested Span.maxNesting text

end Scanner

end Guidebook
