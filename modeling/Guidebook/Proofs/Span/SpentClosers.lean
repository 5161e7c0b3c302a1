import Guidebook.Proofs.Span.PairedStars
import Guidebook.Proofs.Span.Pieces

namespace Guidebook

/-!
# Closers that are spent

The reader of inline markup remembers which closers it has searched for in
vain and never searches for them again.  This module shows that the memory only
saves work: a reader that searches afresh at every opener reads the same spans.

For most closers the reason is that a search that fails in a text fails in
every later part of it.  The closer of an italic is different, since whether a
star closes depends on the runs of stars ahead.  What carries the argument is
that after a search for it has failed, every run of stars ahead is a pair, and
a single star is met only after a bold stretch could not be closed either, when
no star is ahead at all.
-/

/-- The stretch captured at the start of a text, every closer being searched for. -/
def Capture.nextAfresh? (text : Text) : Option (Capture × Text) :=
  match Opener.at? text with
  | none => none
  | some (opener, body) =>
      match opener.close body with
      | .closed capture rest => some (capture, rest)
      | .declined => none
      | .missing => none

/-- A stretch that is found by searching afresh takes at least one character. -/
theorem Capture.nextAfresh?_length_lt
    {text rest : Text}
    {capture : Capture}
    (found : nextAfresh? text = some (capture, rest)) :
    rest.length < text.length := by
  unfold nextAfresh? at found
  split at found
  · simp at found
  · next opener body opened =>
      split at found
      · next closed =>
          simp only [Option.some.injEq, Prod.mk.injEq] at found
          have shorter := Opener.at?_length_lt opened
          have bound := Opener.close_length_le closed
          rw [← found.2]
          omega
      · simp at found
      · simp at found

/-- Cuts a text into pieces without remembering anything about closers. -/
def Piece.cutAfresh : Text → List Piece
  | [] => []
  | character :: rest =>
      match _found : Capture.nextAfresh? (character :: rest) with
      | some (capture, after) => .captured capture :: cutAfresh after
      | none => .literal character :: cutAfresh rest
termination_by text => text.length
decreasing_by
  · exact Capture.nextAfresh?_length_lt _found
  · simp

/-- The spans of a text that may still nest by this many levels, read without a memory. -/
def Span.readNestedAfresh : Nat → Text → List Span
  | 0, characters => literal characters
  | levels + 1, characters =>
      ((Piece.cutAfresh characters).foldr
        (Piece.join (readNestedAfresh levels)) []).map Stretch.toSpan

/-! What follows an opener, seen from the text behind its first character. -/

/-- No opener is longer than two characters. -/
private theorem tail_tail_suffix
    {text body : Text}
    {opener : Opener}
    (opened : Opener.at? text = some (opener, body)) :
    text.tail.tail <:+ body := by
  rw [Opener.at?_eq opened]
  cases opener with
  | image | bold | strikethrough =>
      exact List.suffix_refl body
  | link | code | italic =>
      exact List.tail_suffix body

/-- Every opener takes at least one character. -/
private theorem body_suffix_tail
    {text body : Text}
    {opener : Opener}
    (opened : Opener.at? text = some (opener, body)) :
    body <:+ text.tail := by
  rw [Opener.at?_eq opened]
  cases opener with
  | image | bold | strikethrough =>
      exact List.suffix_cons _ body
  | link | code | italic =>
      exact List.suffix_refl body

namespace Closer

/-- The search for a closer in a text fails. -/
def FailsIn : Closer → Text → Prop
  | .target, text => splitTarget? text = none
  | .backtick, text => text.splitAround? ['\x60'] = none
  | .doubleStar, text => splitStrong? text = none
  | .star, text => splitItalic? [] none text = none
  | .doubleTilde, text => text.splitAround? ['~', '~'] = none

/-- An opener misses its closer exactly when the search for it fails. -/
theorem close_eq_missing_iff
    {opener : Opener}
    {body : Text} :
    opener.close body = .missing ↔ opener.closer.FailsIn body := by
  cases opener with
  | bold =>
      simp only [Opener.close, Opener.closer, FailsIn]
      split
      · next failed =>
          simp [failed]
      · next found =>
          simp only [found, reduceCtorEq, iff_false]
          -- A closer that is declined is there all the same.
          split
          · simp
          · simp
  | image | link | code | italic | strikethrough =>
      simp only [Opener.close, Opener.closer, FailsIn]
      split
      · next failed =>
          simp [failed]
      · next found =>
          simp [found]

theorem closer_ne_star
    {opener : Opener}
    (notItalic : opener ≠ .italic) :
    opener.closer ≠ .star := by
  cases opener with
  | italic =>
      exact (notItalic rfl).elim
  | image | link | code | bold | strikethrough =>
      simp [Opener.closer]

/-! Searches for fixed characters fail one character later, too. -/

/-- A marker that is not ahead of a text is not ahead of its rest. -/
private theorem splitAround?_of_cons
    {marker rest : Text}
    {character : Char}
    (failed : Text.splitAround? (character :: rest) marker = none) :
    rest.splitAround? marker = none := by
  rw [Text.splitAround?] at failed
  split at failed
  · simp at failed
  · simpa using failed

/-- A single character is searched for in vain just when the text does not have it. -/
private theorem splitAround?_singleton_eq_none_iff
    {character : Char}
    {text : Text} :
    text.splitAround? [character] = none ↔ character ∉ text := by
  induction text with
  | nil =>
      simp [Text.splitAround?]
  | cons first rest inductionHypothesis =>
      rw [Text.splitAround?]
      by_cases same : character = first
      · simp [same]
      · simp [same, inductionHypothesis]

/-- Where no target is ahead of a text, none is ahead of its rest. -/
private theorem splitTarget?_of_cons
    {rest : Text}
    {character : Char}
    (failed : splitTarget? (character :: rest) = none) :
    splitTarget? rest = none := by
  cases found : splitTarget? rest with
  | none =>
      rfl
  | some split =>
      obtain ⟨label, url, after⟩ := split
      have shape := splitTarget?_eq found
      unfold splitTarget? at failed
      rw [Text.splitAround?] at failed
      split at failed
      · -- Without a first bracket here there is none later.
        next notFound =>
          split at notFound
          · simp at notFound
          · have missing := Option.map_eq_none_iff.mp notFound
            simp [splitTarget?, missing] at found
      · next label' target foundLabel =>
          split at foundLabel
          · -- The target that starts right here has no end, but a later one would end behind it.
            next isPrefix =>
              simp only [Option.some.injEq, Prod.mk.injEq] at foundLabel
              obtain ⟨_, rfl⟩ := foundLabel
              obtain ⟨target, startsWith⟩ := List.isPrefixOf_iff_prefix.mp isPrefix
              simp only [List.cons_append, List.nil_append, List.cons.injEq] at startsWith
              obtain ⟨_, rfl⟩ := startsWith
              have noClose : ')' ∉ target :=
                splitAround?_singleton_eq_none_iff.mp (by simpa using failed)
              have close : ')' ∈ '(' :: target := by
                rw [shape]
                simp
              simp [noClose] at close
          · obtain ⟨⟨before, target'⟩, foundLater, same⟩ :=
              Option.map_eq_some_iff.mp foundLabel
            simp only [Prod.mk.injEq] at same
            obtain ⟨_, rfl⟩ := same
            have missing := Option.map_eq_none_iff.mp failed
            simp [splitTarget?, foundLater, missing] at found

/-- Where no run of stars is ahead of a text, none is ahead of its rest. -/
private theorem splitStrong?_of_cons
    {rest : Text}
    {character : Char}
    (failed : splitStrong? (character :: rest) = none) :
    splitStrong? rest = none := by
  rw [splitStrong?.eq_def] at failed
  split at failed
  · contradiction
  · simp at failed
  · next same =>
      simp only [List.cons.injEq] at same
      obtain ⟨rfl, rfl⟩ := same
      simpa using failed

/-- A closer other than a star that is not in a text is not in its rest. -/
theorem FailsIn.of_cons
    {closer : Closer}
    {rest : Text}
    {character : Char}
    (notStar : closer ≠ .star)
    (failed : closer.FailsIn (character :: rest)) :
    closer.FailsIn rest := by
  cases closer with
  | target =>
      exact splitTarget?_of_cons failed
  | backtick =>
      exact splitAround?_of_cons failed
  | doubleStar =>
      exact splitStrong?_of_cons failed
  | star =>
      exact (notStar rfl).elim
  | doubleTilde =>
      exact splitAround?_of_cons failed

/-- Where a search that looks for fixed characters fails, it fails in every later part. -/
theorem FailsIn.of_suffix
    {closer : Closer}
    {text rest : Text}
    (failed : closer.FailsIn text)
    (notStar : closer ≠ .star)
    (later : rest <:+ text) :
    closer.FailsIn rest := by
  obtain ⟨earlier, rfl⟩ := later
  induction earlier with
  | nil =>
      exact failed
  | cons character earlier inductionHypothesis =>
      exact inductionHypothesis (failed.of_cons notStar)

end Closer

/--
What is known of a text while the closer of italics is spent: the runs of stars
are pairs, or the text starts with its only star.
-/
inductive StarSpent : Text → Prop where
  | paired
      {text : Text} :
      StarsPaired text →
      StarSpent text
  | alone
      {rest : Text} :
      '*' ∉ rest →
      StarSpent ('*' :: rest)

/--
What is known of the text ahead while a closer is spent.  An opener takes a
character at least, so the search that is saved starts behind the first one.
-/
def Closer.Spent : Closer → Text → Prop
  | .star, text => StarSpent text
  | closer, text => closer.FailsIn text.tail

/-- Everything that is remembered about a text is true of it. -/
def AllSpent (spent : List Closer) (text : Text) : Prop :=
  ∀ closer ∈ spent, closer.Spent text

namespace Closer

/-- A closer other than a star is spent when it is not ahead of the next character. -/
theorem spent_iff
    {closer : Closer}
    {text : Text}
    (notStar : closer ≠ .star) :
    closer.Spent text ↔ closer.FailsIn text.tail := by
  cases closer with
  | star =>
      exact (notStar rfl).elim
  | target | backtick | doubleStar | doubleTilde =>
      exact Iff.rfl

/-- An opener whose closer is spent misses its closer. -/
theorem Spent.close_eq_missing
    {text body : Text}
    {opener : Opener}
    (spent : opener.closer.Spent text)
    (opened : Opener.at? text = some (opener, body)) :
    opener.close body = .missing := by
  rw [close_eq_missing_iff]
  by_cases isItalic : opener = .italic
  · subst isItalic
    have shape : text = '*' :: body := Opener.at?_eq opened
    subst shape
    cases spent with
    | paired paired =>
        -- A star that is one of a pair opens a bold stretch, not an italic.
        cases paired with
        | pair =>
            exact (Opener.body_of_at?_italic opened _ rfl).elim
        | other notStar =>
            exact (notStar rfl).elim
    | alone noStar =>
        exact splitItalic?_eq_none_of_not_mem noStar
  · have notStar := closer_ne_star isItalic
    rw [spent_iff notStar] at spent
    exact spent.of_suffix notStar (body_suffix_tail opened)

/-- A closer that has just been missed is spent from the next character on. -/
theorem spent_of_close_eq_missing
    {text body : Text}
    {opener : Opener}
    (opened : Opener.at? text = some (opener, body))
    (missed : opener.close body = .missing) :
    opener.closer.Spent text.tail := by
  rw [close_eq_missing_iff] at missed
  by_cases isItalic : opener = .italic
  · subst isItalic
    have shape : text = '*' :: body := Opener.at?_eq opened
    subst shape
    exact .paired (.of_splitItalic?_eq_none missed)
  · have notStar := closer_ne_star isItalic
    rw [spent_iff notStar]
    exact missed.of_suffix notStar (tail_tail_suffix opened)

/-- A closer other than a star stays spent further on. -/
theorem Spent.of_suffix_tail
    {closer : Closer}
    {text later : Text}
    (spent : closer.Spent text)
    (notStar : closer ≠ .star)
    (part : later <:+ text.tail) :
    closer.Spent later := by
  rw [spent_iff notStar] at spent ⊢
  exact spent.of_suffix notStar ((List.tail_suffix later).trans part)

end Closer

/-- How the search for a captured stretch at the start of a text comes out. -/
inductive Capture.Search (spent : List Closer) (text : Text) :
    Option (Capture × Text) → List Closer → Prop where
  | plain :
      Opener.at? text = none →
      Search spent text none spent
  | known
      {opener : Opener}
      {body : Text} :
      Opener.at? text = some (opener, body) →
      opener.closer ∈ spent →
      Search spent text none spent
  | closed
      {opener : Opener}
      {body rest : Text}
      {capture : Capture} :
      Opener.at? text = some (opener, body) →
      opener.closer ∉ spent →
      opener.close body = .closed capture rest →
      Search spent text (some (capture, rest)) spent
  | declined
      {opener : Opener}
      {body : Text} :
      Opener.at? text = some (opener, body) →
      opener.close body = .declined →
      Search spent text none spent
  | missing
      {opener : Opener}
      {body : Text} :
      Opener.at? text = some (opener, body) →
      opener.close body = .missing →
      Search spent text none (opener.closer :: spent)

/-- A step of reading is a search that knows which closers are spent. -/
theorem Capture.search_of_next?_eq
    {spent left : List Closer}
    {text : Text}
    {result : Option (Capture × Text)}
    (found : next? spent text = (result, left)) :
    Search spent text result left := by
  unfold next? at found
  split at found
  · next plain =>
      cases found
      exact .plain plain
  · next opener body opened =>
      split at found
      · next isKnown =>
          cases found
          exact .known opened (List.contains_iff_mem.mp isKnown)
      · next notKnown =>
          split at found
          · next closed =>
              cases found
              exact .closed opened (by simpa using notKnown) closed
          · next declined =>
              cases found
              exact .declined opened declined
          · next missed =>
              cases found
              exact .missing opened missed

namespace Opener

/-- Only a third star declines a closer. -/
theorem body_of_close_eq_declined
    {opener : Opener}
    {body : Text}
    (declined : opener.close body = .declined) :
    ∃ later, body = '*' :: later := by
  cases opener with
  | bold =>
      simp only [close] at declined
      split at declined
      · simp at declined
      · split at declined
        · next single =>
            cases body with
            | nil =>
                simp [Text.runLength] at single
            | cons character later =>
                by_cases isStar : character = '*'
                · exact ⟨later, by rw [isStar]⟩
                · simp [Text.runLength, isStar] at single
        · simp at declined
  | _ =>
      simp only [close] at declined
      split at declined <;> simp at declined

/-- Links, images, code and strikethrough end with something else than a star. -/
theorem source_of_close_eq_closed
    {opener : Opener}
    {body rest : Text}
    {capture : Capture}
    (notBold : opener ≠ .bold)
    (notItalic : opener ≠ .italic)
    (closed : opener.close body = .closed capture rest) :
    ∃ before character, character ≠ '*' ∧ capture.source = before ++ [character] := by
  cases opener with
  | bold =>
      exact (notBold rfl).elim
  | italic =>
      exact (notItalic rfl).elim
  | image | link =>
      simp only [close] at closed
      split at closed
      · simp at closed
      · cases closed
        exact ⟨_, ')', by decide, rfl⟩
  | code =>
      simp only [close] at closed
      split at closed
      · simp at closed
      · cases closed
        exact ⟨_, '\x60', by decide, rfl⟩
  | strikethrough =>
      simp only [close] at closed
      split at closed
      · simp at closed
      · next content rest found =>
          cases closed
          exact ⟨['~', '~'] ++ content ++ ['~'], '~', by decide, by simp [Capture.source]⟩

end Opener

namespace StarSpent

/-- Behind a captured stretch the closer of italics is still spent. -/
theorem of_closed
    {text body rest : Text}
    {opener : Opener}
    {capture : Capture}
    (spent : StarSpent text)
    (opened : Opener.at? text = some (opener, body))
    (notItalic : opener ≠ .italic)
    (closed : opener.close body = .closed capture rest) :
    StarSpent rest := by
  have starts := Opener.at?_eq opened
  by_cases isBold : opener = .bold
  · subst isBold
    subst starts
    cases spent with
    | paired paired =>
        cases paired with
        | pair _ bodyPaired =>
            simp only [Opener.close] at closed
            split at closed
            · simp at closed
            · next found =>
                split at closed
                · simp at closed
                · cases closed
                  exact .paired (bodyPaired.of_splitStrong? found)
        | other notStar =>
            exact (notStar rfl).elim
    | alone noStar =>
        simp at noStar
  · have whole := Opener.close_eq closed
    rw [← starts] at whole
    obtain ⟨before, character, notStar, ends⟩ :=
      Opener.source_of_close_eq_closed isBold notItalic closed
    cases spent with
    | paired paired =>
        have shape : text = before ++ character :: rest := by
          rw [whole, ends]
          simp
        exact .paired (paired.of_append shape notStar)
    | alone noStar =>
        -- No other opener starts with a star.
        cases opener with
        | bold =>
            exact (isBold rfl).elim
        | italic =>
            exact (notItalic rfl).elim
        | image | link | code | strikethrough =>
            simp [Opener.mark] at starts

/-- Behind a character that opens nothing the closer of italics is still spent. -/
theorem of_literal
    {spent left : List Closer}
    {character : Char}
    {rest : Text}
    (allSpent : AllSpent spent (character :: rest))
    (isSpent : Closer.star ∈ spent)
    (search : Capture.Search spent (character :: rest) none left) :
    StarSpent rest := by
  have starSpent : StarSpent (character :: rest) := allSpent _ isSpent
  cases starSpent with
  | alone noStar =>
      exact .paired (.of_not_mem noStar)
  | paired paired =>
      cases paired with
      | other _ restPaired =>
          exact .paired restPaired
      | @pair body notLonger bodyPaired =>
          -- Both stars stay text only if no pair is ahead that could close them.
          have opened : Opener.at? ('*' :: '*' :: body) = some (.bold, body) := rfl
          have missed : Opener.bold.close body = .missing := by
            cases search with
            | plain plain =>
                simp [opened] at plain
            | known openedHere isKnown =>
                rw [opened] at openedHere
                cases openedHere
                exact (allSpent _ isKnown).close_eq_missing opened
            | declined openedHere declined =>
                rw [opened] at openedHere
                cases openedHere
                obtain ⟨later, startsLonger⟩ := Opener.body_of_close_eq_declined declined
                exact (notLonger later startsLonger).elim
            | missing openedHere missed =>
                rw [opened] at openedHere
                cases openedHere
                exact missed
          exact .alone
            (bodyPaired.not_mem_of_splitStrong?_eq_none
              (Closer.close_eq_missing_iff.mp missed))

end StarSpent

namespace AllSpent

/-- What is remembered stays true behind a captured stretch. -/
theorem of_closed
    {spent left : List Closer}
    {text rest : Text}
    {capture : Capture}
    (allSpent : AllSpent spent text)
    (search : Capture.Search spent text (some (capture, rest)) left) :
    AllSpent left rest := by
  cases search with
  | @closed opener body _ _ opened notKnown closed =>
      intro closer member
      by_cases isStar : closer = .star
      · subst isStar
        refine StarSpent.of_closed (allSpent _ member) opened ?_ closed
        rintro rfl
        exact notKnown member
      · refine (allSpent _ member).of_suffix_tail isStar ?_
        have sourceNonempty : capture.source ≠ [] := by
          cases capture <;> simp [Capture.source]
        rw [Opener.at?_eq opened, Opener.close_eq closed,
          List.tail_append_of_ne_nil sourceNonempty]
        exact List.suffix_append _ rest

/-- What is remembered stays true behind a character that opens nothing. -/
theorem of_literal
    {spent left : List Closer}
    {character : Char}
    {rest : Text}
    (allSpent : AllSpent spent (character :: rest))
    (search : Capture.Search spent (character :: rest) none left) :
    AllSpent left rest := by
  have stillSpent : AllSpent spent rest := by
    intro closer member
    by_cases isStar : closer = .star
    · subst isStar
      exact StarSpent.of_literal allSpent member search
    · exact (allSpent _ member).of_suffix_tail isStar (List.suffix_refl rest)
  cases search with
  | plain | known | declined =>
      exact stillSpent
  | missing opened missed =>
      intro closer member
      rcases List.mem_cons.mp member with isNew | isOld
      · rw [isNew]
        exact Closer.spent_of_close_eq_missing opened missed
      · exact stillSpent closer isOld

end AllSpent

/-- While what is remembered is true, the search afresh finds the same stretch. -/
theorem Capture.nextAfresh?_eq
    {spent left : List Closer}
    {text : Text}
    {result : Option (Capture × Text)}
    (allSpent : AllSpent spent text)
    (search : Search spent text result left) :
    nextAfresh? text = result := by
  unfold nextAfresh?
  cases search with
  | plain plain =>
      rw [plain]
  | known opened isKnown =>
      have missed := (allSpent _ isKnown).close_eq_missing opened
      simp only [opened, missed]
  | closed opened _ closed =>
      simp only [opened, closed]
  | declined opened declined =>
      simp only [opened, declined]
  | missing opened missed =>
      simp only [opened, missed]

/-- While what is remembered is true, forgetting it cuts a text into the same pieces. -/
theorem Piece.cut_eq_cutAfresh
    {spent : List Closer}
    {text : Text}
    (allSpent : AllSpent spent text) :
    cut spent text = cutAfresh text := by
  -- Along the cut with a memory, which is true of the text ahead at every piece.
  fun_induction cut spent text with
  | case1 =>
      simp [cutAfresh]
  | case2 spent character rest capture after left found inductionHypothesis =>
      have search := Capture.search_of_next?_eq found
      rw [inductionHypothesis (allSpent.of_closed search), cutAfresh]
      split
      · next found' =>
          rw [Capture.nextAfresh?_eq allSpent search] at found'
          cases found'
          rfl
      · next found' =>
          rw [Capture.nextAfresh?_eq allSpent search] at found'
          cases found'
  | case3 spent character rest left found inductionHypothesis =>
      have search := Capture.search_of_next?_eq found
      rw [inductionHypothesis (allSpent.of_literal search), cutAfresh]
      split
      · next found' =>
          rw [Capture.nextAfresh?_eq allSpent search] at found'
          cases found'
      · rfl

/--
Remembering spent closers only saves work: at every depth, a text has the same
spans when every closer is searched for afresh at every opener.
-/
theorem Span.readNested_eq_readNestedAfresh
    (levels : Nat)
    (text : Text) :
    readNested levels text = readNestedAfresh levels text := by
  induction levels generalizing text with
  | zero =>
      rfl
  | succ levels inductionHypothesis =>
      have sameInside : readNested levels = readNestedAfresh levels :=
        funext inductionHypothesis
      have nothingSpent : AllSpent [] text := by
        simp [AllSpent]
      rw [readNested, readNestedAfresh, sameInside, Piece.cut_eq_cutAfresh nothingSpent]

end Guidebook
