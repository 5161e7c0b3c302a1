import Guidebook.Span.Reading
import Guidebook.Proofs.Span.MatchedStars
import Mathlib.Data.List.Induction
import Mathlib.Data.List.Nodup
import Mathlib.Data.List.TakeWhile

namespace Guidebook

/-!
# Which star closes an italic

The search for the closer of an italic goes through the text star by star, with a
bold stretch inside that is open or shut.  What it finds is told by the runs of stars
ahead alone: pairs open and shut a bold stretch in turn, so their number up to the
first other run says whether one is open there.
-/

/-- The number of characters in a stretch. -/
def Extent.length (extent : Extent) : Nat :=
  extent.stop - extent.start

/-- A run of stars in a text, with no star right before it and none right behind it. -/
structure IsStarRun (text : Text) (run : Extent) : Prop where
  nonempty : run.start < run.stop
  stars : ∀ place, run.start ≤ place → place < run.stop → text[place]? = some '*'
  starts : run.start = 0 ∨ text[run.start - 1]? ≠ some '*'
  stops : text[run.stop]? ≠ some '*'

/--
The star that closes an italic, from the runs of stars behind its first character.

The first run that is not a pair closes it: a lone star does, of a longer run the last
star behind an odd number of pairs and the first star behind an even number.  Where all
runs are pairs, the first star of the last pair closes it when their number is odd.
-/
def closingStar? (runs : List Extent) : Option Nat :=
  let pairs := runs.takeWhile (·.length == 2)
  match runs.dropWhile (·.length == 2) with
  | run :: _ =>
      if run.length = 1 then some run.start
      else if pairs.length % 2 = 1 then some (run.stop - 1)
      else some run.start
  | [] => if pairs.length % 2 = 1 then pairs.getLast?.map (·.start) else none

/-! ## The runs of stars in a text -/

namespace Text

/-- Whether a run of stars starts at a place. -/
def startsRun (text : Text) (place : Nat) : Bool :=
  text[place]? == some '*' && (place == 0 || text[place - 1]? != some '*')

/-- The run of stars that starts at a place. -/
def starRun (text : Text) (place : Nat) : Extent :=
  ⟨place, place + runLength '*' (text.drop place)⟩

/-- The runs of stars that start at a place or behind it, from left to right. -/
def starRuns (text : Text) (start : Nat) : List Extent :=
  ((List.range' start (text.length - start)).filter text.startsRun).map text.starRun

/-- The run that a text starts with is made of stars and stops in front of another character. -/
theorem getElem?_runLength
    (text : Text) :
    (∀ place < text.runLength '*', text[place]? = some '*') ∧
      text[text.runLength '*']? ≠ some '*' := by
  induction text with
  | nil =>
      simp [runLength]
  | cons character rest inductionHypothesis =>
      by_cases isStar : character = '*'
      · subst isStar
        simp only [runLength, ↓reduceIte, List.getElem?_cons_succ]
        refine ⟨?_, inductionHypothesis.2⟩
        rintro (_ | place) inRun
        · rfl
        · exact inductionHypothesis.1 place (Nat.lt_of_succ_lt_succ inRun)
      · simp [runLength, isStar]

/-- A run starts at a star that is the first one or has none right before it. -/
theorem startsRun_iff
    {text : Text}
    {place : Nat} :
    text.startsRun place ↔
      text[place]? = some '*' ∧ (place = 0 ∨ text[place - 1]? ≠ some '*') := by
  simp [startsRun]

/-- The stars from the start of a run on are a run. -/
theorem isStarRun_starRun
    {text : Text}
    {place : Nat}
    (starts : text.startsRun place) :
    IsStarRun text (text.starRun place) := by
  obtain ⟨star, fresh⟩ := startsRun_iff.mp starts
  obtain ⟨stars, stops⟩ := getElem?_runLength (text.drop place)
  simp only [List.getElem?_drop] at stars stops
  refine ⟨?_, ?_, fresh, stops⟩
  all_goals simp only [starRun]
  · -- A run of no stars would stop at the star that it starts with.
    refine Nat.lt_add_of_pos_right (Nat.pos_of_ne_zero fun noRun => ?_)
    rw [noRun] at stops
    exact stops star
  · intro other notBefore inRun
    obtain ⟨offset, rfl⟩ := Nat.exists_eq_add_of_le notBefore
    exact stars offset (Nat.lt_of_add_lt_add_left inRun)

end Text

namespace IsStarRun

variable {text : Text} {run other : Extent}

/-- Of two runs that start together neither stops behind the other. -/
theorem stop_le
    (isRun : IsStarRun text run)
    (isOther : IsStarRun text other)
    (sameStart : run.start = other.start) :
    run.stop ≤ other.stop := by
  by_contra longer
  have inRun := isRun.stars other.stop (sameStart ▸ Nat.le_of_lt isOther.nonempty)
    (Nat.lt_of_not_le longer)
  exact isOther.stops inRun

/-- A run of stars is told by the place where it starts. -/
theorem eq_of_start_eq
    (isRun : IsStarRun text run)
    (isOther : IsStarRun text other)
    (sameStart : run.start = other.start) :
    run = other := by
  have sameStop : run.stop = other.stop :=
    Nat.le_antisymm (isRun.stop_le isOther sameStart) (isOther.stop_le isRun sameStart.symm)
  cases run
  cases other
  simp_all

/-- A run starts where a run starts. -/
theorem startsRun
    (isRun : IsStarRun text run) :
    text.startsRun run.start :=
  Text.startsRun_iff.mpr ⟨isRun.stars run.start (Nat.le_refl _) isRun.nonempty, isRun.starts⟩

end IsStarRun

namespace Text

/-- The runs from a place on are all those that start there or further on. -/
theorem mem_starRuns_iff
    {text : Text}
    {start : Nat}
    {run : Extent} :
    run ∈ text.starRuns start ↔ start ≤ run.start ∧ IsStarRun text run := by
  simp only [starRuns, List.mem_map, List.mem_filter, List.mem_range'_1]
  constructor
  · rintro ⟨place, ⟨⟨behind, -⟩, starts⟩, rfl⟩
    exact ⟨behind, isStarRun_starRun starts⟩
  · rintro ⟨behind, isRun⟩
    have inText : run.start < text.length := by
      obtain ⟨inText, -⟩ := List.getElem?_eq_some_iff.mp (startsRun_iff.mp isRun.startsRun).1
      exact inText
    have sameRun := (isStarRun_starRun isRun.startsRun).eq_of_start_eq isRun rfl
    exact ⟨run.start, ⟨⟨behind, by omega⟩, isRun.startsRun⟩, sameRun⟩

/-- Runs are listed in the order of their starts. -/
theorem pairwise_starRuns
    (text : Text)
    (start : Nat) :
    (text.starRuns start).Pairwise (·.start < ·.start) := by
  rw [starRuns, List.pairwise_map]
  exact List.Pairwise.filter text.startsRun List.pairwise_lt_range'

/-- Runs of stars that are listed in order are listed in one way only. -/
theorem eq_starRuns
    {text : Text}
    {start : Nat}
    {runs : List Extent}
    (areRuns : ∀ run, run ∈ runs ↔ start ≤ run.start ∧ IsStarRun text run)
    (inOrder : runs.Pairwise (·.start < ·.start)) :
    runs = text.starRuns start := by
  have listed := text.pairwise_starRuns start
  have noneTwice {others : List Extent} (sorted : others.Pairwise (·.start < ·.start)) :
      others.Nodup :=
    sorted.imp fun before same => Nat.ne_of_lt before (congrArg Extent.start same)
  have sameMembers : runs.Perm (text.starRuns start) :=
    (List.perm_ext_iff_of_nodup (noneTwice inOrder) (noneTwice listed)).mpr fun run => by
      rw [areRuns, mem_starRuns_iff]
  exact sameMembers.eq_of_pairwise
    (fun _ _ _ _ before behind => (Nat.lt_asymm before behind).elim) inOrder listed

/-! From one place of the text to the next one, the runs ahead lose at most the first. -/

/-- There are no runs behind the end of a text. -/
theorem starRuns_of_length_le
    {text : Text}
    {place : Nat}
    (atEnd : text.length ≤ place) :
    text.starRuns place = [] := by
  rw [starRuns, Nat.sub_eq_zero_of_le atEnd]
  rfl

/-- Where a run starts, it is the next one. -/
theorem starRuns_of_startsRun
    {text : Text}
    {place : Nat}
    (starts : text.startsRun place) :
    text.starRuns place = text.starRun place :: text.starRuns (place + 1) := by
  obtain ⟨inText, -⟩ := List.getElem?_eq_some_iff.mp (startsRun_iff.mp starts).1
  obtain ⟨left, isLeft⟩ := Nat.exists_eq_add_of_lt inText
  have countHere : text.length - place = left + 1 := by
    omega
  have countNext : text.length - (place + 1) = left := by
    omega
  rw [starRuns, starRuns, countHere, countNext, List.range'_succ, List.filter_cons_of_pos starts,
    List.map_cons]

/-- Where no run starts, the next one is further on. -/
theorem starRuns_of_not_startsRun
    {text : Text}
    {place : Nat}
    (notStarts : ¬ text.startsRun place) :
    text.starRuns place = text.starRuns (place + 1) := by
  by_cases inText : place < text.length
  · obtain ⟨left, isLeft⟩ := Nat.exists_eq_add_of_lt inText
    have countHere : text.length - place = left + 1 := by
      omega
    have countNext : text.length - (place + 1) = left := by
      omega
    rw [starRuns, starRuns, countHere, countNext, List.range'_succ,
      List.filter_cons_of_neg notStarts]
  · rw [starRuns_of_length_le (Nat.le_of_not_lt inText), starRuns_of_length_le (by omega)]

end Text

/-! ## The search as it goes from run to run -/

/-- A pair of stars opens a bold stretch, or shuts the one that is open. -/
def turnBold (opened : Option Nat) (pair : Extent) : Option Nat :=
  if opened.isSome then none else some pair.start

/-- The star that closes an italic in which a bold stretch may be open, from the runs ahead. -/
def closingStarFrom? (opened : Option Nat) : List Extent → Option Nat
  | [] => opened
  | run :: later =>
      if run.length = 2 then closingStarFrom? (turnBold opened run) later
      else if run.length = 1 then some run.start
      else if opened.isSome then some (run.stop - 1)
      else some run.start

section

variable (opened : Option Nat) (place : Nat) (later : List Extent)

/-- A single star closes the italic. -/
theorem closingStarFrom?_one :
    closingStarFrom? opened (⟨place, place + 1⟩ :: later) = some place := by
  simp [closingStarFrom?, Extent.length]

/-- Two stars open a bold stretch in the italic, or shut the one that is open. -/
theorem closingStarFrom?_two :
    closingStarFrom? opened (⟨place, place + 2⟩ :: later) =
      closingStarFrom? (if opened.isSome then none else some place) later := by
  simp [closingStarFrom?, Extent.length, turnBold]

/--
Of three stars or more the last one closes the italic when a bold stretch is open, and
else the first.
-/
theorem closingStarFrom?_long
    (more : Nat) :
    closingStarFrom? opened (⟨place, place + (more + 3)⟩ :: later) =
      some (place + if opened.isSome then more + 2 else 0) := by
  have notPair : ¬ place + (more + 3) - place = 2 := by
    omega
  have notSingle : ¬ place + (more + 3) - place = 1 := by
    omega
  rw [closingStarFrom?, Extent.length, if_neg notPair, if_neg notSingle]
  cases opened with
  | none | some =>
      rfl

end

/-- In front of the other runs, pairs open and shut bold stretches in turn. -/
theorem closingStarFrom?_append
    {pairs : List Extent}
    (arePairs : ∀ pair ∈ pairs, pair.length = 2)
    (opened : Option Nat)
    (later : List Extent) :
    closingStarFrom? opened (pairs ++ later) =
      closingStarFrom? (pairs.foldl turnBold opened) later := by
  induction pairs generalizing opened with
  | nil =>
      rfl
  | cons pair pairs inductionHypothesis =>
      obtain ⟨isPair, arePairs⟩ := List.forall_mem_cons.mp arePairs
      rw [List.cons_append, closingStarFrom?, if_pos isPair, inductionHypothesis arePairs]
      rfl

/-- Behind pairs of stars a bold stretch is open exactly when their number is odd. -/
theorem foldl_turnBold
    (pairs : List Extent) :
    pairs.foldl turnBold none =
      if pairs.length % 2 = 1 then pairs.getLast?.map (·.start) else none := by
  induction pairs using List.reverseRecOn with
  | nil =>
      rfl
  | append_singleton pairs pair inductionHypothesis =>
      rw [List.foldl_append, inductionHypothesis, List.length_append, List.length_singleton,
        List.getLast?_concat]
      by_cases isOdd : pairs.length % 2 = 1
      · have nonempty : pairs ≠ [] := by
          rintro rfl
          cases isOdd
        have nowEven : ¬ (pairs.length + 1) % 2 = 1 := by
          omega
        simp [turnBold, isOdd, nowEven, nonempty]
      · have nowOdd : (pairs.length + 1) % 2 = 1 := by
          omega
        simp [turnBold, isOdd, nowOdd]

/-- An italic in which nothing is open yet is closed by the parity of the pairs. -/
theorem closingStarFrom?_none
    (runs : List Extent) :
    closingStarFrom? none runs = closingStar? runs := by
  have arePairs : ∀ run ∈ runs.takeWhile (·.length == 2), run.length = 2 := by
    intro run member
    simpa using List.mem_takeWhile_imp member
  have divided := List.takeWhile_append_dropWhile (p := (·.length == 2)) (l := runs)
  rw [← divided, closingStarFrom?_append arePairs, foldl_turnBold, divided, closingStar?]
  cases behind : runs.dropWhile (·.length == 2) with
  | nil =>
      rfl
  | cons run later =>
      have notPair : run.length ≠ 2 := by
        have stops := List.head?_dropWhile_not (·.length == 2) runs
        simpa [behind] using stops
      rw [closingStarFrom?, if_neg notPair]
      by_cases isOdd : (runs.takeWhile (·.length == 2)).length % 2 = 1
      · have nonempty : runs.takeWhile (·.length == 2) ≠ [] := by
          intro isNil
          simp [isNil] at isOdd
        simp [isOdd, nonempty]
      · simp [isOdd]

/-! ## The search through a text -/

section

variable
    {text passed rest : Text}
    {inner : Nat}

/-- What was passed is what lies between the start of the search and its place. -/
theorem Text.slice_and_drop_of_shape
    (shape : text.drop inner = passed.reverse ++ rest)
    (count : Nat) :
    text.slice inner (inner + passed.length + count) = passed.reverse ++ rest.take count ∧
      text.drop (inner + passed.length + count) = rest.drop count := by
  have sameLength : passed.length = passed.reverse.length :=
    List.length_reverse.symm
  constructor
  · rw [Text.slice, shape, Nat.add_assoc, Nat.add_sub_cancel_left, sameLength,
      List.take_length_add_append]
  · rw [Nat.add_assoc, ← List.drop_drop, shape, sameLength, List.drop_length_add_append]

/-- The character at the place of the search is the next one. -/
theorem Text.getElem?_of_shape
    (shape : text.drop inner = passed.reverse ++ rest) :
    text[inner + passed.length]? = rest.head? := by
  have ahead := (slice_and_drop_of_shape shape 0).2
  rw [← List.head?_drop]
  exact congrArg List.head? ahead

/-- A run starts at a star that another character stands before. -/
theorem Text.starRuns_of_star
    (shape : text.drop inner = passed.reverse ++ '*' :: rest)
    (fresh : ∃ before ∈ passed.head?, before ≠ '*') :
    text.starRuns (inner + passed.length) =
      ⟨inner + passed.length, inner + passed.length + (runLength '*' rest + 1)⟩ ::
        text.starRuns (inner + passed.length + 1) := by
  obtain ⟨before, isBefore, notStar⟩ := fresh
  obtain ⟨earlier, rfl⟩ := List.head?_eq_some_iff.mp isBefore
  have star : text[inner + (before :: earlier).length]? = some '*' :=
    getElem?_of_shape shape
  have stands : text[inner + (before :: earlier).length - 1]? = some before := by
    have shapeBefore : text.drop inner = earlier.reverse ++ before :: '*' :: rest := by
      simpa using shape
    exact getElem?_of_shape shapeBefore
  have starts : text.startsRun (inner + (before :: earlier).length) := by
    refine startsRun_iff.mpr ⟨star, .inr ?_⟩
    rw [stands]
    simpa using notStar
  have ahead := (slice_and_drop_of_shape shape 0).2
  rw [starRuns_of_startsRun starts, starRun, ← Nat.add_zero (inner + _), ahead]
  simp [runLength]

/-- Where another character is next, the next run is further on. -/
theorem Text.starRuns_of_other
    (shape : text.drop inner = passed.reverse ++ rest)
    (other : rest.head? ≠ some '*') :
    text.starRuns (inner + passed.length) = text.starRuns (inner + passed.length + 1) := by
  refine starRuns_of_not_startsRun fun starts => other ?_
  rw [← getElem?_of_shape shape]
  exact (startsRun_iff.mp starts).1

/-- A star behind a star starts no run. -/
theorem Text.starRuns_of_second
    (shape : text.drop inner = passed.reverse ++ '*' :: rest) :
    text.starRuns (inner + passed.length + 1) = text.starRuns (inner + passed.length + 2) := by
  refine starRuns_of_not_startsRun fun starts => ?_
  obtain ⟨-, atStart | fresh⟩ := startsRun_iff.mp starts
  · cases atStart
  · exact fresh (getElem?_of_shape shape)

/-- Of a run with a star more in front, all but the last star, and what is behind the run. -/
theorem Text.take_and_drop_runLength
    (marker : Char)
    (rest : Text) :
    (marker :: rest).take (runLength marker rest) = rest.takeWhile (· == marker) ∧
      rest.drop (runLength marker rest) = rest.dropWhile (· == marker) := by
  induction rest with
  | nil =>
      exact ⟨rfl, rfl⟩
  | cons character later inductionHypothesis =>
      by_cases same : character = marker
      · subst same
        simpa [runLength] using inductionHypothesis
      · simp [runLength, same]

/-- The search through a text finds the star that the runs ahead tell. -/
theorem splitItalic?_eq_closingStarFrom?
    {opened : Option Nat}
    {pending : Option (Text × Text)}
    (shape : text.drop inner = passed.reverse ++ rest)
    (apart : rest.head? = some '*' → ∃ before ∈ passed.head?, before ≠ '*')
    (samePending :
      pending = opened.map fun place => ((text.slice inner place).reverse, text.drop (place + 1))) :
    splitItalic? passed pending rest =
      (closingStarFrom? opened (text.starRuns (inner + passed.length))).map
        fun closer => (text.slice inner closer, text.drop (closer + 1)) := by
  fun_induction splitItalic? passed pending rest generalizing opened with
  | case1 passed pending =>
      have noneAhead : text.starRuns (inner + passed.length) = [] := by
        have atEnd := congrArg List.length shape
        simp only [List.length_drop, List.append_nil, List.length_reverse] at atEnd
        exact Text.starRuns_of_length_le (by omega)
      rw [noneAhead, closingStarFrom?, samePending, Option.map_map]
      simp [Function.comp_def]
  | case2 passed pending rest isOpen =>
      rw [samePending, Option.isSome_map] at isOpen
      obtain ⟨taken, left⟩ := Text.take_and_drop_runLength '*' rest
      have inside := (Text.slice_and_drop_of_shape shape (Text.runLength '*' rest + 2)).1
      have behind := (Text.slice_and_drop_of_shape shape (Text.runLength '*' rest + 3)).2
      rw [List.take_succ_cons, List.take_succ_cons, taken] at inside
      rw [List.drop_succ_cons, List.drop_succ_cons, List.drop_succ_cons, left] at behind
      rw [Text.starRuns_of_star shape (apart rfl)]
      simp only [Text.runLength, ↓reduceIte]
      rw [closingStarFrom?_long, if_pos isOpen, Option.map_some, inside,
        Nat.add_assoc _ (_ + 2), behind]
  | case3 passed pending rest isShut =>
      rw [samePending, Option.isSome_map] at isShut
      have inside := (Text.slice_and_drop_of_shape shape 0).1
      have behind := (Text.slice_and_drop_of_shape shape 1).2
      rw [List.take_zero, List.append_nil] at inside
      rw [Text.starRuns_of_star shape (apart rfl)]
      simp only [Text.runLength, ↓reduceIte]
      rw [closingStarFrom?_long, if_neg isShut, Option.map_some, inside, behind]
      rfl
  | case4 passed pending rest notLonger inductionHypothesis =>
      have ends : rest.head? ≠ some '*' :=
        head?_ne_star notLonger
      have noMore : Text.runLength '*' ('*' :: rest) = 1 := by
        simp [Text.runLength, (run_eq_nil ends).1]
      have inside := (Text.slice_and_drop_of_shape shape 0).1
      have behind := (Text.slice_and_drop_of_shape shape 1).2
      have shapeNext : text.drop inner = ('*' :: '*' :: passed).reverse ++ rest := by
        simpa using shape
      rw [Text.starRuns_of_star shape (apart rfl), Text.starRuns_of_second shape, noMore,
        closingStarFrom?_two]
      refine inductionHypothesis shapeNext (fun star => (ends star).elim) ?_
      rw [samePending, Option.isSome_map]
      cases opened with
      | none =>
          rw [List.take_zero, List.append_nil, Nat.add_zero] at inside
          simp [inside, behind]
      | some =>
          rfl
  | case5 passed pending rest notPair notStar =>
      have ends : rest.head? ≠ some '*' :=
        head?_ne_star notStar
      have inside := (Text.slice_and_drop_of_shape shape 0).1
      have behind := (Text.slice_and_drop_of_shape shape 1).2
      rw [List.take_zero, List.append_nil] at inside
      rw [Text.starRuns_of_star shape (apart rfl), (run_eq_nil ends).1, closingStarFrom?_one,
        Option.map_some, behind]
      exact congrArg (fun inside => some (inside, rest)) inside.symm
  | case6 passed pending character rest notLonger notPair notStar inductionHypothesis =>
      have shapeNext : text.drop inner = (character :: passed).reverse ++ rest := by
        simpa using shape
      have other : (character :: rest).head? ≠ some '*' := by
        simpa using notStar
      rw [Text.starRuns_of_other shape other, Nat.add_assoc]
      exact inductionHypothesis shapeNext (fun _ => ⟨character, rfl, notStar⟩) samePending

end

/--
A star with no star behind it, for which a closer is searched, opens an italic that the
runs of stars from its second character on close, and everything up to the closing star is
in the italic.
-/
theorem Capture.next?_eq_of_runs
    {text : Text}
    {place : Nat}
    {spent : List Closer}
    {runs : List Extent}
    (star : text[place]? = some '*')
    (single : text[place + 1]? ≠ some '*')
    (unspent : .star ∉ spent)
    (areRuns : ∀ run, run ∈ runs ↔ place + 2 ≤ run.start ∧ IsStarRun text run)
    (inOrder : runs.Pairwise (·.start < ·.start)) :
    Capture.next? spent (text.drop place) =
      match closingStar? runs with
      | some closer =>
          (some (.italic (text.slice (place + 1) closer), text.drop (closer + 1)), spent)
      | none => (none, .star :: spent) := by
  have body : text.drop place = '*' :: text.drop (place + 1) :=
    List.drop_eq_getElem?_toList_append.trans (by rw [star]; rfl)
  have apart : (text.drop (place + 1)).head? ≠ some '*' := by
    rwa [List.head?_drop]
  have shape : text.drop (place + 1) = List.reverse [] ++ text.drop (place + 1) :=
    rfl
  have nothingOpen : (none : Option (Text × Text)) = (none : Option Nat).map fun opened =>
      ((text.slice (place + 1) opened).reverse, text.drop (opened + 1)) :=
    rfl
  have closes :=
    splitItalic?_eq_closingStarFrom? shape (fun star => (apart star).elim) nothingOpen
  have runsBehind : text.starRuns (place + 1) = runs := by
    rw [Text.eq_starRuns areRuns inOrder]
    exact Text.starRuns_of_other shape apart
  rw [List.length_nil, Nat.add_zero, runsBehind, closingStarFrom?_none] at closes
  rw [next?, body, Opener.at?_star apart]
  simp only [Opener.closer, List.contains_iff_mem, unspent, ↓reduceIte, Opener.close]
  rw [closes]
  cases closingStar? runs with
  | none | some =>
      rfl

/-- Behind three pairs the last star of the next run closes, and the bold stretch inside too. -/
theorem Capture.next?_eq_of_runs_open_bold :
    let text : Text := "x*é **b** **c*** d*".toList
    text[1]? = some '*' ∧ text[2]? ≠ some '*' ∧ .star ∉ ([] : List Closer) ∧
      (∀ run, run ∈ text.starRuns 3 ↔ 3 ≤ run.start ∧ IsStarRun text run) ∧
      (text.starRuns 3).Pairwise (·.start < ·.start) ∧
      next? [] (text.drop 1) = (some (.italic "é **b** **c**".toList, " d*".toList), []) := by
  intro text
  have star : text[1]? = some '*' := by
    decide
  have single : text[1 + 1]? ≠ some '*' := by
    decide
  have unspent : .star ∉ ([] : List Closer) := by
    decide
  have found := next?_eq_of_runs star single unspent (fun run => Text.mem_starRuns_iff)
    (text.pairwise_starRuns 3)
  have closer : closingStar? (text.starRuns 3) = some 15 := by
    decide
  rw [closer] at found
  exact ⟨star, single, unspent, fun run => Text.mem_starRuns_iff,
    text.pairwise_starRuns 3, found⟩

end Guidebook
