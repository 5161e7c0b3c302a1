import Guidebook.Proofs.Span.MatchedStars
import Guidebook.Proofs.Span.Scanner

namespace Guidebook.Scanner

open Scan

/-!
# Searches by bytes find what is ahead

A search that steps through the bytes of a text meets a star only where the character is a
star, so it comes to the same place as the search through the characters that are ahead.
It has a result, and it cuts the text between two characters only.
-/

variable {text ahead rest : Text} {start place : Nat}

/-- The search for a marker by bytes finds it where it is ahead. -/
theorem yields_findFrom
    (here : text.IsAhead start ahead)
    (marker : Text) :
    (findFrom text start marker).Yields
      ((ahead.splitAround? marker).map fun (before, _) => start + before.byteLength) [] := by
  refine (yields_note_ahead here).bind ?_
  rw [here.byteSlice?_eq]
  exact yields_pure _

/-! ## Stars -/

/-- Where a star is ahead, the byte at the place is that of a star. -/
theorem getElem?_of_star
    (here : text.IsAhead place ('*' :: rest)) :
    place < text.byteLength ∧ text.bytes[place]? = some (byte '*') := by
  have star : text.bytes[place]? = some (byte '*') :=
    (here.getElem?_eq_byte_iff (by decide)).mpr rfl
  exact ⟨(List.getElem?_eq_some_iff.mp star).1, star⟩

/-- The number of bytes that are stars is the length of the run of stars ahead. -/
theorem starCount_eq
    (here : text.IsAhead place ahead) :
    starCount text place = ahead.runLength '*' := by
  rw [starCount, here.drop_bytes]
  clear here
  induction ahead with
  | nil =>
      rfl
  | cons character rest inductionHypothesis =>
      by_cases isStar : character = '*'
      · subst isStar
        rw [Text.runLength, if_pos rfl, ← inductionHypothesis]
        rfl
      · have noStar : ∀ code ∈ String.utf8EncodeChar character, code ≠ byte '*' := by
          rintro code member rfl
          exact isStar ((Text.byte_mem_utf8EncodeChar_iff (by decide)).mp member)
        have positive := character.utf8Size_pos
        rw [← String.length_utf8EncodeChar] at positive
        obtain ⟨first, later, encoded⟩ := List.exists_cons_of_length_pos positive
        rw [encoded, List.forall_mem_cons] at noStar
        rw [Text.runLength, if_neg isStar, Text.bytes, List.flatMap_cons, encoded,
          List.cons_append, List.takeWhile_cons_of_neg (by simpa using noStar.1)]
        rfl

/-- A star with none behind it counts as one. -/
theorem starCount_of_single
    (here : text.IsAhead place ('*' :: rest))
    (single : rest.head? ≠ some '*') :
    starCount text place = 1 := by
  rw [starCount_eq here, Text.runLength, if_pos rfl, (run_eq_nil single).1]

/-- A star is a single byte. -/
theorem byteLength_takeWhile_star
    (ahead : Text) :
    Text.byteLength (ahead.takeWhile (· == '*')) = ahead.runLength '*' := by
  induction ahead with
  | nil =>
      rfl
  | cons character rest inductionHypothesis =>
      by_cases isStar : character = '*'
      · subst isStar
        rw [List.takeWhile_cons_of_pos rfl, Text.byteLength_cons, inductionHypothesis,
          Text.runLength, if_pos rfl, Nat.add_comm]
        rfl
      · rw [List.takeWhile_cons_of_neg (by simpa using isStar), Text.runLength, if_neg isStar]
        rfl

/-- A search that steps over all bytes but stars steps over a character but a star. -/
theorem eq_behind_other
    {result : Nat → α}
    {character : Char}
    (here : text.IsAhead place (character :: rest))
    (notStar : character ≠ '*')
    (steps :
      ∀ inner,
        text.bytes[inner]? ≠ some (byte '*') →
        result inner = result (inner + 1)) :
    result place = result (place + character.utf8Size) := by
  refine here.eq_behind_character fun inner code isCode member => steps inner fun isStar => ?_
  obtain rfl := Option.some_inj.mp (isCode.symm.trans isStar)
  exact notStar ((Text.byte_mem_utf8EncodeChar_iff (by decide)).mp member)

/-! ## The run that closes a bold stretch -/

/-- What the run found from a place on means for an opener of so many stars. -/
def BoldCloser.ofSplit (opener stars start : Nat) : Option (Text × Nat × Text) → BoldCloser
  | none => .missing
  | some (before, closing, _) =>
      if 3 ≤ stars ∧ closing = 2 ∧ opener + stars < start + before.byteLength then .declined
      else .run (start + before.byteLength) closing

/-- A character in front moves the run that is found by its size. -/
theorem BoldCloser.ofSplit_cons
    (opener stars start : Nat)
    (character : Char)
    (split : Option (Text × Nat × Text)) :
    ofSplit opener stars start
        (split.map fun (before, closing, after) => (character :: before, closing, after)) =
      ofSplit opener stars (start + character.utf8Size) split := by
  cases split with
  | none =>
      rfl
  | some =>
      simp only [ofSplit, Option.map_some, Text.byteLength_cons, Nat.add_assoc]

/-- The search for the closer of a bold stretch steps over any byte but a star. -/
theorem boldCloser_succ
    {opener stars : Nat}
    (noStar : text.bytes[place]? ≠ some (byte '*')) :
    boldCloser text opener stars place = boldCloser text opener stars (place + 1) := by
  by_cases inText : place < text.byteLength
  · rw [boldCloser, dif_pos inText, dif_neg noStar]
  · rw [boldCloser, dif_neg inText, boldCloser, dif_neg (by omega)]

/-- The search for the closer of a bold stretch finds the next run of two stars or more. -/
theorem yields_boldCloser
    (opener stars : Nat)
    (here : text.IsAhead start ahead) :
    (boldCloser text opener stars start).Yields
      (.ofSplit opener stars start (splitStrong? ahead)) [] := by
  fun_induction splitStrong? ahead generalizing start with
  | case1 =>
      have atEnd := here.byteLength_eq
      rw [Text.byteLength_nil, Nat.add_zero] at atEnd
      rw [boldCloser, dif_neg (Nat.not_lt_of_le (Nat.le_of_eq atEnd))]
      exact yields_pure BoldCloser.missing
  | case2 rest =>
      obtain ⟨inText, star⟩ := getElem?_of_star here
      have count : starCount text start = Text.runLength '*' rest + 2 := by
        simp [starCount_eq here, Text.runLength]
      rw [boldCloser, dif_pos inText, dif_pos star, count, if_pos (Nat.le_add_left 2 _)]
      refine (yields_note_ahead here).bind ?_
      rw [← apply_ite (pure : BoldCloser → Scan BoldCloser)]
      exact yields_pure _
  | case3 character rest notPair inductionHypothesis =>
      rw [BoldCloser.ofSplit_cons]
      have onward := inductionHypothesis here.next
      by_cases isStar : character = '*'
      · subst isStar
        have single : rest.head? ≠ some '*' :=
          head?_ne_star fun later shape => notPair later rfl shape
        obtain ⟨inText, star⟩ := getElem?_of_star here
        rw [boldCloser, dif_pos inText, dif_pos star, starCount_of_single here single,
          if_neg (by decide)]
        exact (yields_note_ahead here).bind onward
      · rw [eq_behind_other here isStar fun _ => boldCloser_succ]
        exact onward

/-- In front of one star there is another character before the next run of two or more. -/
theorem runLength_lt_byteLength_iff
    {body before after : Text}
    {closing : Nat}
    (found : splitStrong? body = some (before, closing, after))
    (star : 0 < body.runLength '*') :
    body.runLength '*' < before.byteLength ↔ body.runLength '*' = 1 := by
  fun_cases splitStrong? body with
  | case1 =>
      cases found
  | case2 rest =>
      rw [splitStrong?] at found
      cases found
      simp [Text.runLength]
  | case3 character rest notPair =>
      have isStar : character = '*' := by
        by_contra notStar
        rw [Text.runLength, if_neg notStar] at star
        exact Nat.lt_irrefl 0 star
      subst isStar
      have single : rest.head? ≠ some '*' :=
        head?_ne_star fun later shape => notPair later rfl shape
      have one : Text.runLength '*' ('*' :: rest) = 1 := by
        rw [Text.runLength, if_pos rfl, (run_eq_nil single).1]
      cases rest with
      | nil =>
          cases found
      | cons other later =>
          have notStar : other ≠ '*' := by
            simpa using single
          rw [splitStrong?_cons (.inr single), splitStrong?_cons (.inl notStar),
            Option.map_map] at found
          obtain ⟨_, -, isSplit⟩ := Option.map_eq_some_iff.mp found
          cases isSplit
          have positive := other.utf8Size_pos
          have oneByte : Char.utf8Size '*' = 1 :=
            rfl
          rw [one, Text.byteLength_cons, Text.byteLength_cons]
          omega

/--
Behind the two stars that open it, a bold stretch is declined just if three stars stand
there in all and the run that is found has two.
-/
theorem BoldCloser.ofSplit_splitStrong?
    (opener : Nat)
    (body : Text) :
    ofSplit opener (body.runLength '*' + 2) (opener + 2) (splitStrong? body) =
      match splitStrong? body with
      | none => .missing
      | some (before, closing, _) =>
          if body.runLength '*' = 1 ∧ closing = 2 then .declined
          else .run (opener + 2 + before.byteLength) closing := by
  cases found : splitStrong? body with
  | none =>
      rfl
  | some split =>
      obtain ⟨before, closing, after⟩ := split
      have onlyOne := runLength_lt_byteLength_iff found
      refine if_congr ?_ rfl rfl
      omega

/-! ## The star that closes an italic -/

/-- The search for the closer of an italic steps over any byte but a star. -/
theorem italicCloser_succ
    {openBold : Option Nat}
    (noStar : text.bytes[place]? ≠ some (byte '*')) :
    italicCloser text openBold place = italicCloser text openBold (place + 1) := by
  by_cases inText : place < text.byteLength
  · rw [italicCloser, dif_pos inText, dif_neg noStar]
  · rw [italicCloser, dif_neg inText, italicCloser, dif_neg (by omega)]

/--
The search for the closer of an italic that starts at some place finds the star behind the
inside.  What was passed and the bold stretch that is open must agree with the places.
-/
theorem yields_italicCloser
    {passed : Text}
    {pending : Option (Text × Text)}
    {openBold : Option Nat}
    (here : text.IsAhead place rest)
    (passedFrom : place = start + passed.byteLength)
    (samePending : openBold = pending.map fun (inside, _) => start + inside.byteLength) :
    (italicCloser text openBold place).Yields
      ((splitItalic? passed pending rest).map fun (inside, _) =>
        start + inside.byteLength) [] := by
  fun_induction splitItalic? passed pending rest generalizing place openBold with
  | case1 passed pending =>
      have atEnd := here.byteLength_eq
      rw [Text.byteLength_nil, Nat.add_zero] at atEnd
      rw [italicCloser, dif_neg (Nat.not_lt_of_le (Nat.le_of_eq atEnd)), samePending,
        Option.map_map]
      simp only [Function.comp_def, Text.byteLength_reverse]
      exact yields_pure _
  | case2 passed pending rest isOpen =>
      rw [← Option.isSome_map, ← samePending] at isOpen
      obtain ⟨inText, star⟩ := getElem?_of_star here
      have count : starCount text place = Text.runLength '*' rest + 3 := by
        simp [starCount_eq here, Text.runLength]
      rw [italicCloser, dif_pos inText, dif_pos star, count, if_neg (by omega), if_neg (by omega),
        if_pos isOpen]
      refine (yields_note_ahead here).bind (yields_pure_of_eq (congrArg some ?_))
      have inside := byteLength_takeWhile_star rest
      have star : Char.utf8Size '*' = 1 :=
        rfl
      simp only [Text.byteLength_append, Text.byteLength_reverse, Text.byteLength_cons, inside]
      omega
  | case3 passed pending rest isShut =>
      rw [← Option.isSome_map, ← samePending] at isShut
      obtain ⟨inText, star⟩ := getElem?_of_star here
      have count : starCount text place = Text.runLength '*' rest + 3 := by
        simp [starCount_eq here, Text.runLength]
      rw [italicCloser, dif_pos inText, dif_pos star, count, if_neg (by omega), if_neg (by omega),
        if_neg isShut]
      refine (yields_note_ahead here).bind ?_
      rw [passedFrom, ← Text.byteLength_reverse passed]
      exact yields_pure _
  | case4 passed pending rest notLonger inductionHypothesis =>
      have ends : rest.head? ≠ some '*' :=
        head?_ne_star notLonger
      obtain ⟨inText, star⟩ := getElem?_of_star here
      have count : starCount text place = 2 := by
        simp [starCount_eq here, Text.runLength, (run_eq_nil ends).1]
      rw [italicCloser, dif_pos inText, dif_pos star, count, if_neg (by decide), if_pos rfl]
      refine (yields_note_ahead here).bind (inductionHypothesis here.next.next ?_ ?_)
      · rw [passedFrom]
        rfl
      · rw [samePending, Option.isSome_map]
        cases pending with
        | none =>
            exact congrArg some passedFrom
        | some =>
            rfl
  | case5 passed pending rest notPair notStar =>
      have single : rest.head? ≠ some '*' :=
        head?_ne_star notStar
      obtain ⟨inText, star⟩ := getElem?_of_star here
      rw [italicCloser, dif_pos inText, dif_pos star, starCount_of_single here single, if_pos rfl]
      refine (yields_note_ahead here).bind ?_
      rw [passedFrom, ← Text.byteLength_reverse passed]
      exact yields_pure _
  | case6 passed pending character rest notLonger notPair notStar inductionHypothesis =>
      rw [eq_behind_other here notStar fun _ => italicCloser_succ]
      refine inductionHypothesis here.next ?_ samePending
      rw [passedFrom, Text.byteLength_cons]
      omega

/-- The search may start a byte later, as an italic opens in front of another character. -/
theorem yields_italicCloser_body
    {body : Text}
    (here : text.IsAhead (place + 1) body)
    (single : body.head? ≠ some '*') :
    (italicCloser text none (place + 2)).Yields
      ((splitItalic? [] none body).map fun (inside, _) =>
        place + 1 + inside.byteLength) [] := by
  have noStar : text.bytes[place + 1]? ≠ some (byte '*') := by
    rwa [ne_eq, here.getElem?_eq_byte_iff (by decide)]
  rw [← italicCloser_succ noStar]
  exact yields_italicCloser here rfl rfl

end Guidebook.Scanner
