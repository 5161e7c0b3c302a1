import Guidebook.Proofs.Code.Classification
import Guidebook.Proofs.Code.Settled

namespace Guidebook

/-!
# What is left plain

A part of a line that is left plain is a gap between the claims of every rule, one
inside the other.  The invariant is that a rule which has been run has no match in
what is left: not in its own gaps, as a match there would be one in the text that
the rule was run on, and so not in the gaps of a later rule either.
-/

/-- A gap between claims, in what they leave of a text of some length from a place on. -/
structure IsGap
    (claims : List Extent)
    (place length start stop : Nat) :
    Prop where
  behind : place ≤ start
  forwards : start ≤ stop
  within : stop ≤ length
  starts : start = place ∨ ∃ claim ∈ claims, start = claim.stop
  stops : stop = length ∨ ∃ claim ∈ claims, stop = claim.start
  apart : ∀ claim ∈ claims, claim.stop ≤ start ∨ stop ≤ claim.start

theorem InOrder.le_start
    {place stop : Nat}
    {extents : List Extent}
    (inOrder : InOrder place stop extents)
    {extent : Extent}
    (member : extent ∈ extents) :
    place ≤ extent.start := by
  induction inOrder with
  | nil =>
      cases member
  | cons startsLater forwards _ inductionHypothesis =>
      rcases List.mem_cons.mp member with rfl | isLater
      · exact startsLater
      · exact Nat.le_trans startsLater (Nat.le_trans forwards (inductionHypothesis isLater))

namespace Rule

/-- A plain fragment of a text that is cut at claims comes from one of the gaps. -/
theorem exists_gap_of_mem_cutAt
    {kind : TokenKind}
    {gap : Text → List Fragment}
    {text : Text}
    {place : Nat}
    {claims : List Extent}
    (inOrder : InOrder place text.length claims)
    {part : Text}
    (member : Fragment.plain part ∈ cutAt kind gap text place claims) :
    ∃ start stop,
      IsGap claims place text.length start stop ∧
        Fragment.plain part ∈ gap (text.slice start stop) := by
  induction claims generalizing place with
  | nil =>
      refine ⟨place, text.length, ⟨Nat.le_refl _, inOrder.le, Nat.le_refl _, .inl rfl, .inl rfl,
        by simp⟩, ?_⟩
      have last : text.slice place text.length = text.drop place := by
        rw [Text.slice, List.take_of_length_le]
        rw [List.length_drop]
      rw [last]
      exact member
  | cons claim later inductionHypothesis =>
      cases inOrder with
      | cons startsLater forwards laterInOrder =>
          rcases List.mem_append.mp member with inGap | behindGap
          · -- All claims are behind the first gap.
            refine ⟨place, claim.start, ⟨Nat.le_refl _, startsLater,
              Nat.le_trans forwards laterInOrder.le, .inl rfl,
              .inr ⟨claim, List.mem_cons_self, rfl⟩, ?_⟩, inGap⟩
            intro other isOther
            rcases List.mem_cons.mp isOther with rfl | isLater
            · exact .inr (Nat.le_refl _)
            · exact .inr (Nat.le_trans forwards (laterInOrder.le_start isLater))
          · rcases List.mem_cons.mp behindGap with isClaim | isBehind
            · cases isClaim
            · obtain ⟨start, stop, isGap, inGap⟩ := inductionHypothesis laterInOrder isBehind
              refine ⟨start, stop, ⟨?_, isGap.forwards, isGap.within, .inr ?_, ?_, ?_⟩, inGap⟩
              · exact Nat.le_trans startsLater (Nat.le_trans forwards isGap.behind)
              · rcases isGap.starts with isFirst | ⟨other, isLater, same⟩
                · exact ⟨claim, List.mem_cons_self, isFirst⟩
                · exact ⟨other, List.mem_cons_of_mem claim isLater, same⟩
              · rcases isGap.stops with isLast | ⟨other, isLater, same⟩
                · exact .inl isLast
                · exact .inr ⟨other, List.mem_cons_of_mem claim isLater, same⟩
              · intro other isOther
                rcases List.mem_cons.mp isOther with rfl | isLater
                · exact .inl isGap.behind
                · exact isGap.apart other isLater

/-! ## Matches and claims -/

/-- Every claim is the body of a match. -/
theorem exists_match_of_mem_claimsFrom
    {rule : Rule}
    {place : Nat}
    {before : Option Char}
    {text : Text}
    {claim : Extent}
    (member : claim ∈ rule.claimsFrom place before text) :
    ∃ start found,
      rule.matchAtPlace? before text start = some found ∧
        claim = ⟨place + start + found.lead, place + start + found.bodyEnd⟩ := by
  fun_induction claimsFrom rule place before text with
  | case1 =>
      cases member
  | case2 place before character rest _ inductionHypothesis =>
      obtain ⟨start, found, isMatch, rfl⟩ := inductionHypothesis member
      rw [matchAtPlace?_cons rule before] at isMatch
      refine ⟨start + 1, found, isMatch, ?_⟩
      simp only [Nat.add_assoc, Nat.add_comm 1]
  | case3 place before character rest found matched text inductionHypothesis =>
      rcases List.mem_cons.mp member with rfl | isLater
      · exact ⟨0, found, matched, rfl⟩
      · obtain ⟨start, other, isMatch, rfl⟩ := inductionHypothesis isLater
        rw [matchAtPlace?_drop] at isMatch
        exact ⟨found.extent + start, other, isMatch, by simp only [Nat.add_assoc]⟩

/-- Where a rule matches, one of its successive matches takes the text. -/
theorem exists_claim_of_matchAtPlace?
    {rule : Rule}
    (place : Nat)
    {before : Option Char}
    {text : Text}
    {spot : Nat}
    {other : Match}
    (isMatch : rule.matchAtPlace? before text spot = some other) :
    ∃ start found,
      rule.matchAtPlace? before text start = some found ∧
        (start ≤ spot ∧ spot < start + found.extent) ∧
        ⟨place + start + found.lead, place + start + found.bodyEnd⟩ ∈
          rule.claimsFrom place before text := by
  fun_induction claimsFrom rule place before text generalizing spot with
  | case1 =>
      have within := bounds_of_matchAtPlace? isMatch
      rw [List.length_nil] at within
      omega
  | case2 place before character rest noMatch inductionHypothesis =>
      cases spot with
      | zero =>
          have isFirst : rule.matchAt? before (character :: rest) = some other := isMatch
          rw [noMatch] at isFirst
          cases isFirst
      | succ spot =>
          rw [← matchAtPlace?_cons] at isMatch
          obtain ⟨start, found, isFound, covers, isClaim⟩ := inductionHypothesis isMatch
          rw [matchAtPlace?_cons rule before] at isFound
          refine ⟨start + 1, found, isFound, by omega, ?_⟩
          simpa only [Nat.add_assoc, Nat.add_left_comm 1, Nat.add_comm 1] using isClaim
  | case3 =>
      rename_i first matched text inductionHypothesis
      by_cases isHere : spot < first.extent
      · exact ⟨0, first, matched, ⟨Nat.zero_le spot, by omega⟩, List.mem_cons_self⟩
      · obtain ⟨further, rfl⟩ := Nat.exists_eq_add_of_le (Nat.le_of_not_lt isHere)
        rw [← matchAtPlace?_drop] at isMatch
        obtain ⟨start, found, isFound, covers, isClaim⟩ := inductionHypothesis isMatch
        rw [matchAtPlace?_drop] at isFound
        refine ⟨first.extent + start, found, isFound, by omega, List.mem_cons_of_mem _ ?_⟩
        simpa only [Nat.add_assoc] using isClaim

/-! ## What a rule misses -/

/-- The rule has no match in a text that stands on its own. -/
def Misses (rule : Rule) (text : Text) : Prop :=
  ∀ place, rule.matchAtPlace? none text place = none

theorem claimsFrom_eq_nil
    {rule : Rule}
    {place : Nat}
    {before : Option Char}
    {text : Text}
    (misses : ∀ spot, rule.matchAtPlace? before text spot = none) :
    rule.claimsFrom place before text = [] := by
  refine List.eq_nil_iff_forall_not_mem.mpr ?_
  intro claim member
  obtain ⟨start, found, isMatch, -⟩ := exists_match_of_mem_claimsFrom member
  simp [misses start] at isMatch

theorem Misses.cut_eq
    {rule : Rule}
    {text : Text}
    (misses : rule.Misses text)
    (gap : Text → List Fragment) :
    rule.cut gap text = gap text := by
  rw [cut, claims, claimsFrom_eq_nil misses]
  rfl

/-- Rules that miss a text leave all of it plain. -/
theorem divide_eq_plain
    {rules : List Rule}
    {text : Text}
    (nonempty : text ≠ [])
    (misses : ∀ rule ∈ rules, rule.Misses text) :
    divide rules text = [Fragment.plain text] := by
  induction rules with
  | nil =>
      rw [divide, if_neg (by simpa using nonempty)]
  | cons rule later inductionHypothesis =>
      rw [divide, (misses rule List.mem_cons_self).cut_eq]
      exact inductionHypothesis fun other member => misses other (List.mem_cons_of_mem rule member)

/-- A gap between the claims of the rule in a text that stands on its own. -/
def LeavesGap (rule : Rule) (text : Text) (start stop : Nat) : Prop :=
  IsGap ((rule.claims text).filter (!·.isEmpty)) 0 text.length start stop

section Gaps

variable
    {cutting : Cutting}
    {rule : Rule}
    {text : Text}
    {start stop : Nat}

theorem getElem?_slice
    {place : Nat}
    (inside : start + place < stop) :
    (text.slice start stop)[place]? = text[start + place]? := by
  rw [Text.slice, List.getElem?_take_of_lt (by omega), List.getElem?_drop]

/-- A part of a text between places where it may be cut, as an excerpt. -/
theorem excerpt_slice
    (forwards : start ≤ stop)
    (within : stop ≤ text.length)
    (allowedStart : cutting.AllowsAt none text start)
    (allowedStop : cutting.AllowsAt none text stop) :
    Excerpt cutting none (text.slice start stop) (characterBefore none text start)
      (text.drop stop) := by
  have isLength := text.length_slice start within
  -- An empty part has no character that a word could go on with.
  rcases Nat.eq_or_lt_of_le forwards with rfl | isLong
  · have isEmpty : text.slice start start = [] := by
      rw [← List.length_eq_zero_iff, isLength, Nat.sub_self]
    rw [isEmpty]
    exact ⟨.inr ⟨rfl, cutting.allows_none_right _⟩, .inr (cutting.allows_none_left _)⟩
  · refine ⟨.inr ⟨rfl, ?_⟩, .inr ?_⟩
    · rw [List.head?_eq_getElem?, getElem?_slice isLong]
      exact allowedStart
    · obtain ⟨length, rfl⟩ := Nat.exists_eq_add_of_lt isLong
      have isLast : (text.slice start (start + length + 1))[length]? = text[start + length]? :=
        getElem?_slice (Nat.lt_succ_self _)
      rw [isLength, List.head?_drop, Nat.add_assoc, Nat.add_sub_cancel_left, characterBefore,
        ← Nat.add_assoc, isLast]
      exact allowedStop

/-- Where the claims of a rule leave a gap, the text may be cut as the rule allows. -/
theorem Cuts.allowsAt_of_leavesGap
    (cuts : rule.Cuts cutting)
    (isGap : rule.LeavesGap text start stop) :
    cutting.AllowsAt none text start ∧ cutting.AllowsAt none text stop := by
  have allowedClaim
      {claim : Extent}
      (member : claim ∈ (rule.claims text).filter (!·.isEmpty)) :
      cutting.AllowsAt none text claim.start ∧ cutting.AllowsAt none text claim.stop := by
    obtain ⟨place, found, isMatch, rfl⟩ :=
      exists_match_of_mem_claimsFrom (List.mem_filter.mp member).1
    rw [Nat.zero_add]
    have allowed := cuts isMatch
    rwa [cutting.allowsAt_drop, cutting.allowsAt_drop] at allowed
  constructor
  · rcases isGap.starts with rfl | ⟨claim, member, rfl⟩
    · exact cutting.allows_none_left _
    · exact (allowedClaim member).2
  · rcases isGap.stops with rfl | ⟨claim, member, rfl⟩
    · have noNext : text[text.length]? = none := List.getElem?_eq_none (Nat.le_refl _)
      rw [Cutting.AllowsAt, noNext]
      exact cutting.allows_none_right _
    · exact (allowedClaim member).1

/-- A match in a gap between claims of any rule is a match in the text. -/
theorem Robust.matchAtPlace?_of_leavesGap
    (robust : rule.Robust cutting)
    {other : Rule}
    (cuts : other.Cuts cutting)
    (isGap : other.LeavesGap text start stop)
    {place : Nat}
    {found : Match}
    (isMatch : rule.matchAtPlace? none (text.slice start stop) place = some found) :
    ∃ further,
      rule.matchAtPlace? none text (start + place) = some further ∧
        further.lead = found.lead := by
  obtain ⟨allowedStart, allowedStop⟩ := cuts.allowsAt_of_leavesGap isGap
  have inside : place ≤ (text.slice start stop).length :=
    Nat.le_trans (Nat.le_add_right place found.extent) (bounds_of_matchAtPlace? isMatch).1
  have excerpt :=
    (excerpt_slice isGap.forwards isGap.within allowedStart allowedStop).drop inside
  obtain ⟨further, isFurther, sameLead⟩ := robust.lasts excerpt isMatch
  refine ⟨further, ?_, sameLead⟩
  rw [← matchAtPlace?_drop, ← text.slice_append_drop isGap.forwards, matchAtPlace?,
    List.drop_append_of_le_length inside]
  exact isFurther

/-- A rule that misses a text misses the gaps that another rule leaves in it. -/
theorem Misses.slice
    (misses : rule.Misses text)
    (robust : rule.Robust cutting)
    {other : Rule}
    (cuts : other.Cuts cutting)
    (isGap : other.LeavesGap text start stop) :
    rule.Misses (text.slice start stop) := by
  intro place
  refine Option.eq_none_iff_forall_ne_some.mpr ?_
  intro found isMatch
  obtain ⟨further, isFurther, -⟩ := robust.matchAtPlace?_of_leavesGap cuts isGap isMatch
  simp [misses (start + place)] at isFurther

/-- A rule misses the gaps that it leaves itself. -/
theorem Robust.misses_slice
    (robust : rule.Robust cutting)
    (cuts : rule.Cuts cutting)
    (isGap : rule.LeavesGap text start stop) :
    rule.Misses (text.slice start stop) := by
  intro place
  refine Option.eq_none_iff_forall_ne_some.mpr ?_
  intro found isMatch
  have inside := bounds_of_matchAtPlace? isMatch
  rw [text.length_slice start isGap.within] at inside
  have positive := robust.nonempty isMatch
  obtain ⟨further, isFurther, sameLead⟩ :=
    robust.matchAtPlace?_of_leavesGap cuts isGap isMatch
  obtain ⟨first, taken, isTaken, covers, isClaim⟩ := exists_claim_of_matchAtPlace? 0 isFurther
  have takenPositive := robust.nonempty isTaken
  rw [Nat.zero_add] at isClaim
  have isLong : first + taken.lead < first + taken.bodyEnd :=
    Nat.add_lt_add_left (Nat.lt_add_of_pos_right takenPositive) first
  have apart := isGap.apart _
    (List.mem_filter.mpr ⟨isClaim, by simpa [Extent.isEmpty] using isLong⟩)
  simp only [Match.extent, Match.bodyEnd] at inside covers apart
  rcases Nat.eq_or_lt_of_le covers.1 with rfl | startsBefore
  · -- The match in the gap is the one that took the text, and that claims some of the gap.
    obtain rfl := Option.some.inj (isTaken.symm.trans isFurther)
    omega
  · obtain ⟨offset, isOffset⟩ := Nat.exists_eq_add_of_le (Nat.le_of_lt startsBefore)
    have notClaimed : offset < taken.lead ∨ taken.bodyEnd ≤ offset := by
      simp only [Match.bodyEnd]
      omega
    have isNone := robust.apart isTaken (by omega) notClaimed (by
      simp only [Match.extent, Match.bodyEnd]
      omega)
    rw [matchAtPlace?_drop, ← isOffset] at isNone
    simp [isNone] at isFurther

end Gaps

/-! ## Divisions -/

/-- A plain fragment of a text that a rule cuts comes from a gap of the rule. -/
theorem exists_gap_of_mem_divide_cons
    {rule : Rule}
    {later : List Rule}
    {text part : Text}
    (member : Fragment.plain part ∈ divide (rule :: later) text) :
    ∃ start stop,
      rule.LeavesGap text start stop ∧
        Fragment.plain part ∈ divide later (text.slice start stop) :=
  exists_gap_of_mem_cutAt (rule.inOrder_filter_claims text) member

/-- A rule that misses a text misses what later rules leave plain in it. -/
theorem Misses.of_mem_divide
    {cutting : Cutting}
    {rule : Rule}
    {later : List Rule}
    {text part : Text}
    (misses : rule.Misses text)
    (robust : rule.Robust cutting)
    (cuts : ∀ other ∈ later, other.Cuts cutting)
    (member : Fragment.plain part ∈ divide later text) :
    rule.Misses part := by
  induction later generalizing text with
  | nil =>
      cases text with
      | nil =>
          cases member
      | cons character rest =>
          have isWhole : Fragment.plain part = Fragment.plain (character :: rest) :=
            List.mem_singleton.mp member
          rw [Fragment.plain, Fragment.plain, Fragment.mk.injEq] at isWhole
          rw [isWhole.2]
          exact misses
  | cons other later inductionHypothesis =>
      obtain ⟨start, stop, isGap, inGap⟩ := exists_gap_of_mem_divide_cons member
      exact inductionHypothesis
        (misses.slice robust (cuts other List.mem_cons_self) isGap)
        (fun further isLater => cuts further (List.mem_cons_of_mem other isLater)) inGap

/-- Every rule misses what is left plain. -/
theorem Settled.misses_of_mem_divide
    {rules : List Rule}
    (settled : Settled rules)
    {text part : Text}
    (member : Fragment.plain part ∈ divide rules text) :
    ∀ rule ∈ rules, rule.Misses part := by
  induction settled generalizing text with
  | nil =>
      simp
  | @cons rule later cutting robust cuts _ inductionHypothesis =>
      obtain ⟨start, stop, isGap, inGap⟩ := exists_gap_of_mem_divide_cons member
      have missesGap := robust.misses_slice (cuts rule List.mem_cons_self) isGap
      have missesPart := missesGap.of_mem_divide robust
        (fun other isLater => cuts other (List.mem_cons_of_mem rule isLater)) inGap
      exact List.forall_mem_cons.mpr ⟨missesPart, inductionHypothesis inGap⟩

end Rule

namespace Language

/--
What is left plain in a line has nothing that could still be classified: taken as
a line of its own, it is all plain.
-/
theorem highlightLine_plain
    (language : Language)
    {line part : Text}
    (member : Fragment.plain part ∈ language.highlightLine line) :
    language.highlightLine part = [Fragment.plain part] := by
  rw [highlightLine, Rule.classify_eq_divide] at member ⊢
  exact Rule.divide_eq_plain (Rule.text_ne_nil_of_mem_divide member)
    ((Rule.settled_rules language).misses_of_mem_divide member)

/-- A command behind a pipe that is no known word is plain there and on its own. -/
theorem highlightLine_plain_behind_pipe :
    Fragment.plain [' ', 'w', 'c'] ∈ bash.highlightLine ['l', 's', '|', ' ', 'w', 'c'] ∧
      bash.highlightLine [' ', 'w', 'c'] = [Fragment.plain [' ', 'w', 'c']] := by
  have behindPipe :
      bash.highlightLine ['l', 's', '|', ' ', 'w', 'c'] =
        [Fragment.classified .keyword ['l', 's'], Fragment.classified .operator ['|'],
          Fragment.plain [' ', 'w', 'c']] := by
    decide +kernel
  have member :
      Fragment.plain [' ', 'w', 'c'] ∈ bash.highlightLine ['l', 's', '|', ' ', 'w', 'c'] := by
    rw [behindPipe]
    simp
  exact ⟨member, highlightLine_plain bash member⟩

end Language

end Guidebook
