import Guidebook.Proofs.Code.Division
import Guidebook.Proofs.Code.Matches

namespace Guidebook

/-!
# Cutting a text made of parts

A rule goes through a text from left to right, and what it has passed over since
its last claim is the next gap.  Where a text is made of parts that the rule
either passes over or claims as a whole, its claims and gaps are made of these
parts too.
-/

/-- The part between two others, from where the first one ends up to where the last one starts. -/
theorem Text.slice_of_append
    {text front middle back : Text}
    {start stop : Nat}
    (shape : text = front ++ (middle ++ back))
    (isStart : start = front.length)
    (isStop : stop = front.length + middle.length) :
    text.slice start stop = middle := by
  rw [slice, shape, isStart, isStop, List.drop_left, Nat.add_sub_cancel_left, List.take_left]

namespace Rule

/--
A text behind some character cut at the claims of a rule, when some of the gap in
front of it has been passed over already.
-/
def cutFrom
    (rule : Rule)
    (gap : Text → List Fragment)
    (passed : Text)
    (before : Option Char) :
    Text → List Fragment
  | [] => gap passed
  | character :: rest =>
      match _matched : rule.matchAt? before (character :: rest) with
      | none => cutFrom rule gap (passed ++ [character]) (some character) rest
      | some found =>
          let text : Text := character :: rest
          gap (passed ++ text.take found.lead) ++
            Fragment.classified rule.kind (text.slice found.lead found.bodyEnd) ::
              cutFrom rule gap (text.slice found.bodyEnd found.extent)
                (characterBefore before text found.extent) (text.drop found.extent)
termination_by text => text.length
decreasing_by
  · simp
  · have positive := extent_pos_of_matchAt? _matched
    simp only [List.length_drop, List.length_cons]
    omega

variable
    {rule : Rule}
    {gap : Text → List Fragment}
    {passed : Text}
    {before : Option Char}

theorem cutFrom_nil :
    rule.cutFrom gap passed before [] = gap passed := by
  rw [cutFrom]

/-- A character where the rule does not match is passed. -/
theorem cutFrom_of_none
    {character : Char}
    {rest : Text}
    (noMatch : rule.matchAt? before (character :: rest) = none) :
    rule.cutFrom gap passed before (character :: rest) =
      rule.cutFrom gap (passed ++ [character]) (some character) rest := by
  rw [cutFrom]
  split
  · rfl
  · next isMatch =>
      rw [noMatch] at isMatch
      cases isMatch

/-- Where the rule matches, the gap ends, a fragment is claimed, and cutting goes on behind it. -/
theorem cutFrom_of_some
    {text : Text}
    {found : Match}
    (isMatch : rule.matchAt? before text = some found) :
    rule.cutFrom gap passed before text =
      gap (passed ++ text.take found.lead) ++
        Fragment.classified rule.kind (text.slice found.lead found.bodyEnd) ::
          rule.cutFrom gap (text.slice found.bodyEnd found.extent)
            (characterBefore before text found.extent) (text.drop found.extent) := by
  cases text with
  | nil =>
      have positive := extent_pos_of_matchAt? isMatch
      exact absurd (extent_le_length_of_matchAt? isMatch) (Nat.not_le_of_lt positive)
  | cons character rest =>
      rw [cutFrom]
      split
      · next noMatch =>
          rw [isMatch] at noMatch
          cases noMatch
      · next other isOther =>
          rw [isMatch, Option.some.injEq] at isOther
          rw [isOther]

/-- What a match takes of a text: its lead, its body and its trail. -/
theorem divides_of_matchAt?
    {text : Text}
    {found : Match}
    (isMatch : rule.matchAt? before text = some found) :
    text =
        text.take found.lead ++
          (text.slice found.lead found.bodyEnd ++
            (text.slice found.bodyEnd found.extent ++ text.drop found.extent)) ∧
      (text.take found.lead).length = found.lead ∧
      (text.slice found.lead found.bodyEnd).length = found.body ∧
      (text.slice found.bodyEnd found.extent).length = found.trail := by
  have within := extent_le_length_of_matchAt? isMatch
  have bodyWithin : found.bodyEnd ≤ text.length :=
    Nat.le_trans (Nat.le_add_right _ _) within
  have leadWithin : found.lead ≤ text.length :=
    Nat.le_trans (Nat.le_add_right _ _) bodyWithin
  refine ⟨?_, List.length_take_of_le leadWithin, ?_, ?_⟩
  · have behindBody := text.slice_append_drop (Nat.le_add_right found.bodyEnd found.trail)
    have behindLead := text.slice_append_drop (Nat.le_add_right found.lead found.body)
    rw [Match.extent, behindBody, Match.bodyEnd, behindLead, List.take_append_drop]
  · rw [text.length_slice _ bodyWithin, Match.bodyEnd, Nat.add_sub_cancel_left]
  · rw [text.length_slice _ within, Match.extent, Nat.add_sub_cancel_left]

/-- The first of the claims that a text is cut at. -/
theorem cutAt_cons_append
    {kind : TokenKind}
    {text done front claimed behind : Text}
    {start stop : Nat}
    (shape : text = done ++ (front ++ (claimed ++ behind)))
    (isStart : start = done.length + front.length)
    (isStop : stop = start + claimed.length)
    (later : List Extent) :
    cutAt kind gap text done.length (⟨start, stop⟩ :: later) =
      gap front ++ Fragment.classified kind claimed :: cutAt kind gap text stop later := by
  have shapeBehind : text = (done ++ front) ++ (claimed ++ behind) := by
    rw [shape, List.append_assoc]
  rw [cutAt, Text.slice_of_append shape rfl isStart, Text.slice_of_append shapeBehind]
  · rw [isStart, List.length_append]
  · rw [isStop, isStart, List.length_append]

/-- Going through a text is cutting it, when every match claims something. -/
theorem cutAt_claimsFrom
    (nonempty :
      ∀ {before : Option Char} {text : Text} {found : Match},
        rule.matchAt? before text = some found → 0 < found.body)
    (done passed : Text)
    (before : Option Char)
    (text : Text)
    {place : Nat}
    (isPlace : place = done.length + passed.length) :
    cutAt rule.kind gap (done ++ (passed ++ text)) done.length
        ((rule.claimsFrom place before text).filter (!·.isEmpty)) =
      rule.cutFrom gap passed before text := by
  fun_induction claimsFrom rule place before text generalizing done passed with
  | case1 place before =>
      rw [List.filter_nil, cutAt, List.append_nil, List.drop_left, cutFrom_nil]
  | case2 place before character rest noMatch inductionHypothesis =>
      have isNext : place + 1 = done.length + (passed ++ [character]).length := by
        rw [List.length_append, ← Nat.add_assoc, isPlace]
        rfl
      have further := inductionHypothesis done (passed ++ [character]) isNext
      rw [List.append_assoc] at further
      rw [cutFrom_of_none noMatch]
      exact further
  | case3 place before character rest found isMatch text inductionHypothesis =>
      have matched : rule.matchAt? before text = some found := isMatch
      obtain ⟨divided, leadLength, bodyLength, trailLength⟩ := divides_of_matchAt? matched
      have notEmpty : (⟨place + found.lead, place + found.bodyEnd⟩ : Extent).isEmpty = false :=
        decide_eq_false (Nat.not_le_of_lt
          (Nat.add_lt_add_left (Nat.lt_add_of_pos_right (nonempty isMatch)) place))
      let front := passed ++ text.take found.lead
      let claimed := Text.slice text found.lead found.bodyEnd
      let trail := Text.slice text found.bodyEnd found.extent
      have isStart : place + found.lead = done.length + front.length := by
        rw [List.length_append, leadLength, ← Nat.add_assoc, ← isPlace]
      have isStop : place + found.bodyEnd = place + found.lead + claimed.length := by
        rw [bodyLength, Nat.add_assoc]
        rfl
      have isBehind : place + found.bodyEnd = (done ++ (front ++ claimed)).length := by
        rw [isStop, isStart, Nat.add_assoc, ← List.length_append, ← List.length_append]
      have isNext : place + found.extent = (done ++ (front ++ claimed)).length + trail.length := by
        rw [← isBehind, trailLength, Nat.add_assoc]
        rfl
      have shape :
          done ++ (passed ++ text) =
            done ++ (front ++ (claimed ++ (trail ++ text.drop found.extent))) := by
        rw [List.append_assoc passed, ← divided]
      have shapeBehind :
          done ++ (passed ++ text) =
            done ++ (front ++ claimed) ++ (trail ++ text.drop found.extent) := by
        rw [shape, List.append_assoc done, List.append_assoc front]
      have further := inductionHypothesis (done ++ (front ++ claimed)) trail isNext
      rw [← isBehind, ← shapeBehind] at further
      rw [List.filter_cons_of_pos (by simpa using notEmpty), cutFrom_of_some isMatch, ← further]
      exact cutAt_cons_append shape isStart isStop _

/-- To cut a text is to go through it from its start. -/
theorem cut_eq_cutFrom
    (nonempty :
      ∀ {before : Option Char} {text : Text} {found : Match},
        rule.matchAt? before text = some found → 0 < found.body)
    (text : Text) :
    rule.cut gap text = rule.cutFrom gap [] none text :=
  cutAt_claimsFrom nonempty [] [] none text rfl

/-- What has been passed over is the front of the next gap. -/
theorem exists_gap
    (rule : Rule)
    (gap : Text → List Fragment)
    (passed : Text)
    (before : Option Char)
    (text : Text) :
    ∃ more back, rule.cutFrom gap passed before text = gap (passed ++ more) ++ back := by
  fun_induction cutFrom rule gap passed before text with
  | case1 passed =>
      exact ⟨[], [], by rw [List.append_nil, List.append_nil]⟩
  | case2 passed before character rest _ inductionHypothesis =>
      obtain ⟨more, back, same⟩ := inductionHypothesis
      exact ⟨character :: more, back, by rw [same, List.append_assoc]; rfl⟩
  | case3 passed before character rest found _ text =>
      exact ⟨text.take found.lead, _, rfl⟩

/-! ## Parts that are passed over or claimed -/

/-- The rule matches nowhere in a part, when such text stands behind it. -/
def Passes (rule : Rule) (part behind : Text) : Prop :=
  ∀ rest, rest <:+ part → rest ≠ [] →
    ∀ before, rule.matchAt? before (rest ++ behind) = none

/--
The rule claims all of a part, when such text stands behind it, and matches
nowhere in what its match takes of that text.
-/
def Takes (rule : Rule) (part behind : Text) : Prop :=
  ∀ before, ∃ trail,
    rule.matchAt? before (part ++ behind) = some ⟨0, part.length, trail⟩ ∧
      rule.Passes (behind.take trail) (behind.drop trail)

theorem passes_nil
    (behind : Text) :
    rule.Passes [] behind := by
  intro rest isSuffix nonempty
  exact (nonempty (List.suffix_nil.mp isSuffix)).elim

/-- Without contexts the rule takes what its body takes. -/
theorem takes_of_body
    {part behind : Text}
    (noLead : rule.lead = none)
    (noTrail : rule.trail = none)
    (nonempty : part ≠ [])
    (fits : ∀ before, rule.body.extent? before (part ++ behind) = some part.length) :
    rule.Takes part behind := by
  intro before
  have positive : 0 < (⟨0, part.length, 0⟩ : Match).extent :=
    Nat.add_pos_left (Nat.add_pos_right 0 (List.length_pos_of_ne_nil nonempty)) 0
  refine ⟨0, matchAt?_eq_some_iff.mpr ⟨?_, fits before, ?_, positive⟩, passes_nil _⟩
  · rw [noLead]
    rfl
  · rw [noTrail]
    rfl

/-- A rule passes over a part when it passes over its first character and over the rest. -/
theorem passes_cons
    {character : Char}
    {part behind : Text}
    (noMatch : ∀ before, rule.matchAt? before (character :: (part ++ behind)) = none)
    (passes : rule.Passes part behind) :
    rule.Passes (character :: part) behind := by
  intro rest isSuffix nonempty
  rcases List.suffix_cons_iff.mp isSuffix with isWhole | isBehind
  · rw [isWhole]
    exact noMatch
  · exact passes rest isBehind nonempty

/-- A rule that passes over a part does not match at its first character. -/
theorem Passes.of_cons
    {character : Char}
    {part behind : Text}
    (passes : rule.Passes (character :: part) behind) :
    (∀ before, rule.matchAt? before (character :: (part ++ behind)) = none) ∧
      rule.Passes part behind := by
  constructor
  · exact passes (character :: part) (List.suffix_refl _) (List.cons_ne_nil _ _)
  · intro rest isSuffix
    exact passes rest (isSuffix.trans (List.suffix_cons character part))

/-- A rule passes over two parts one behind the other. -/
theorem Passes.append
    {first second behind : Text}
    (firstPasses : rule.Passes first (second ++ behind))
    (secondPasses : rule.Passes second behind) :
    rule.Passes (first ++ second) behind := by
  induction first with
  | nil =>
      exact secondPasses
  | cons character first inductionHypothesis =>
      obtain ⟨noMatch, passesBehind⟩ := firstPasses.of_cons
      have noMatchHere :
          ∀ before, rule.matchAt? before (character :: (first ++ second ++ behind)) = none := by
        rw [List.append_assoc]
        exact noMatch
      exact passes_cons noMatchHere (inductionHypothesis passesBehind)

/-- A rule that matches at no character of a part passes over it. -/
theorem passes_of_forall
    {part : Text}
    (noMatch :
      ∀ character ∈ part, ∀ before rest, rule.matchAt? before (character :: rest) = none)
    (behind : Text) :
    rule.Passes part behind := by
  induction part with
  | nil =>
      exact passes_nil behind
  | cons character part inductionHypothesis =>
      obtain ⟨noMatchHere, noMatchBehind⟩ := List.forall_mem_cons.mp noMatch
      exact passes_cons (fun before => noMatchHere before (part ++ behind))
        (inductionHypothesis noMatchBehind)

/-- What the rule passes over joins the gap in front of it. -/
theorem Passes.cutFrom_eq
    {text : Text}
    {count : Nat}
    (passes : rule.Passes (text.take count) (text.drop count))
    (passed : Text)
    (before : Option Char) :
    rule.cutFrom gap passed before text =
      rule.cutFrom gap (passed ++ text.take count) (characterBefore before text count)
        (text.drop count) := by
  induction text generalizing count passed before with
  | nil =>
      rw [List.take_nil, List.drop_nil, List.append_nil, cutFrom_nil, cutFrom_nil]
  | cons character rest inductionHypothesis =>
      cases count with
      | zero =>
          rw [List.take_zero, List.append_nil]
          rfl
      | succ count =>
          rw [List.take_succ_cons, List.drop_succ_cons] at passes
          obtain ⟨noMatch, passesBehind⟩ := passes.of_cons
          rw [List.take_append_drop] at noMatch
          have sameBefore := characterBefore_drop before (character :: rest) 1 count
          rw [Nat.add_comm] at sameBefore
          rw [cutFrom_of_none (noMatch before), inductionHypothesis passesBehind,
            List.append_assoc, ← sameBefore]
          rfl

/-- A part that is passed over becomes part of the gap. -/
theorem Passes.cutFrom_append
    {part behind : Text}
    (passes : rule.Passes part behind)
    (passed : Text)
    (before : Option Char) :
    rule.cutFrom gap passed before (part ++ behind) =
      rule.cutFrom gap (passed ++ part) (characterBefore before (part ++ behind) part.length)
        behind := by
  have passesTaken :
      rule.Passes ((part ++ behind).take part.length) ((part ++ behind).drop part.length) := by
    rw [List.take_left, List.drop_left]
    exact passes
  rw [passesTaken.cutFrom_eq, List.take_left, List.drop_left]

/-- What the rule takes is a fragment, and the next gap starts right behind it. -/
theorem Takes.cutFrom_eq
    {part behind : Text}
    (takes : rule.Takes part behind)
    (passed : Text)
    (before : Option Char) :
    rule.cutFrom gap passed before (part ++ behind) =
      gap passed ++
        Fragment.classified rule.kind part ::
          rule.cutFrom gap [] (characterBefore before (part ++ behind) part.length) behind := by
  obtain ⟨trail, isMatch, passes⟩ := takes before
  have body : (part ++ behind).slice 0 part.length = part :=
    Text.slice_of_append (List.nil_append _).symm rfl (Nat.zero_add _).symm
  have taken : (part ++ behind).slice part.length (part.length + trail) = behind.take trail := by
    rw [Text.slice, List.drop_left, Nat.add_sub_cancel_left]
  have sameBefore := characterBefore_drop before (part ++ behind) part.length trail
  rw [List.drop_left] at sameBefore
  have sameBehind : (part ++ behind).drop (part.length + trail) = behind.drop trail := by
    rw [← List.drop_drop, List.drop_left]
  rw [cutFrom_of_some isMatch]
  simp only [Match.extent, Match.bodyEnd, Nat.zero_add]
  rw [body, taken, sameBehind, ← sameBefore, List.take_zero, List.append_nil, passes.cutFrom_eq []]
  rfl

/-- A text made of parts each of which the rule passes over or claims as a whole. -/
inductive Aligned (rule : Rule) (behind : Text) : List Text → Prop where
  | nil :
      Aligned rule behind []
  | passes
      {part : Text}
      {parts : List Text} :
      rule.Passes part (parts.flatten ++ behind) →
      Aligned rule behind parts →
      Aligned rule behind (part :: parts)
  | takes
      {part : Text}
      {parts : List Text} :
      rule.Takes part (parts.flatten ++ behind) →
      Aligned rule behind parts →
      Aligned rule behind (part :: parts)

namespace Aligned

variable
    {behind : Text}
    {parts : List Text}

/-- The rule comes to the end of the parts, with some of them passed over since its last claim. -/
theorem exists_cutFrom
    (keeps : ∀ part, (gap part).flatMap Fragment.text = part)
    (aligned : Aligned rule behind parts)
    (passed : List Text)
    (before : Option Char) :
    ∃ front left last,
      rule.cutFrom gap passed.flatten before (parts.flatten ++ behind) =
          front ++ rule.cutFrom gap left.flatten last behind ∧
        front.flatMap Fragment.text ++ left.flatten = passed.flatten ++ parts.flatten ∧
        left ⊆ passed ++ parts := by
  induction aligned generalizing passed before with
  | nil =>
      exact ⟨[], passed, before, rfl, (List.append_nil _).symm, List.subset_append_left _ _⟩
  | @passes part parts passes _ inductionHypothesis =>
      obtain ⟨front, left, last, same, sameText, fromParts⟩ :=
        inductionHypothesis (passed ++ [part])
          (characterBefore before (part ++ (parts.flatten ++ behind)) part.length)
      rw [List.flatten_concat] at same sameText
      refine ⟨front, left, last, ?_, ?_, ?_⟩
      · rw [List.flatten_cons, List.append_assoc, passes.cutFrom_append, same]
      · rw [sameText, List.flatten_cons, List.append_assoc]
      · rw [List.append_assoc] at fromParts
        exact fromParts
  | @takes part parts takes _ inductionHypothesis =>
      obtain ⟨front, left, last, same, sameText, fromParts⟩ :=
        inductionHypothesis []
          (characterBefore before (part ++ (parts.flatten ++ behind)) part.length)
      refine ⟨gap passed.flatten ++ Fragment.classified rule.kind part :: front, left, last,
        ?_, ?_, ?_⟩
      · rw [List.flatten_cons, List.append_assoc, takes.cutFrom_eq, ← List.flatten_nil, same,
          List.append_assoc]
        rfl
      · rw [List.flatMap_append, List.flatMap_cons, keeps, List.flatten_cons, List.append_assoc,
          List.append_assoc, sameText]
        rfl
      · exact List.Subset.trans fromParts
          (List.subset_append_of_subset_right passed (List.subset_cons_self part parts))

end Aligned

end Rule

end Guidebook
