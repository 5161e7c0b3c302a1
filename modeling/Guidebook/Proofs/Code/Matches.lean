import Guidebook.Proofs.Code.Excerpt

namespace Guidebook

/-!
# Matches in excerpts

Two things are shown about the rules of languages.  A rule that matches somewhere
in an excerpt matches there in the text too, and with a lead of the same length.
And a rule that depends on where words end comes with no later rule that cuts a
word.
-/

/-- Whether a text behind a character may be cut at a place. -/
def Cutting.AllowsAt
    (cutting : Cutting)
    (before : Option Char)
    (text : Text)
    (place : Nat) :
    Prop :=
  cutting.Allows (characterBefore before text place) text[place]?

/-- Whether a text may be cut somewhere is the same for what is left behind an earlier place. -/
theorem Cutting.allowsAt_drop
    (cutting : Cutting)
    (before : Option Char)
    (text : Text)
    (start place : Nat) :
    cutting.AllowsAt (characterBefore before text start) (text.drop start) place ↔
      cutting.AllowsAt before text (start + place) := by
  rw [AllowsAt, AllowsAt, characterBefore_drop, List.getElem?_drop]

namespace Pattern

/-- Where the pattern starts to fit, no word goes on. -/
def StartsClean (pattern : Pattern) : Prop :=
  ∀ ⦃before : Option Char⦄ ⦃text : Text⦄ ⦃extent : Nat⦄,
    pattern.extent? before text = some extent → Cutting.betweenWords.AllowsAt before text 0

/-- Where what the pattern takes ends, no word goes on. -/
def EndsClean (pattern : Pattern) : Prop :=
  ∀ ⦃before : Option Char⦄ ⦃text : Text⦄ ⦃extent : Nat⦄,
    pattern.extent? before text = some extent → Cutting.betweenWords.AllowsAt before text extent

variable
    {first second : Pattern}
    {accepts : Char → Bool}

/-- A word boundary lies between words, so a pattern may start there. -/
theorem startsClean_boundary :
    boundary.StartsClean := by
  intro before text extent fits
  rw [extent?, Option.ite_none_right_eq_some] at fits
  obtain ⟨isBoundary, -⟩ := fits
  rintro ⟨isBefore, isNext⟩
  rw [← List.head?_eq_getElem?] at isNext
  change before.any isWordCharacter at isBefore
  simp [isWordBoundary, isBefore, isNext] at isBoundary

theorem endsClean_boundary :
    boundary.EndsClean := by
  intro before text extent fits
  have clean := startsClean_boundary fits
  rw [extent?, Option.ite_none_right_eq_some, Option.some.injEq] at fits
  obtain ⟨-, rfl⟩ := fits
  exact clean

/-- A pattern that opens with no word character starts between words. -/
theorem Opens.startsClean
    (opens : first.Opens accepts)
    (noWord : ∀ character, accepts character → isWordCharacter character = false) :
    first.StartsClean := by
  intro before text extent fits
  obtain ⟨-, character, rest, rfl, accepted⟩ := opens fits
  rintro ⟨-, isNext⟩
  simp [noWord character accepted] at isNext

/-- A run of word characters ends with its word. -/
theorem endsClean_run_words :
    (run isWordCharacter).EndsClean := by
  intro before text extent fits
  obtain ⟨rfl, -⟩ := extent?_run_eq_some_iff.mp fits
  rintro ⟨-, isNext⟩
  obtain ⟨next, isThere, isWord⟩ := (Option.any_eq_true _ _).mp isNext
  simp [not_accepts_of_getElem?_runExtent isThere] at isWord

/-- A run of other characters ends outside of words. -/
theorem endsClean_run_noWords
    (noWord : ∀ character, accepts character → isWordCharacter character = false) :
    (run accepts).EndsClean := by
  intro before text extent fits
  obtain ⟨isRun, started⟩ := extent?_run_eq_some_iff.mp fits
  rintro ⟨isLast, -⟩
  obtain ⟨last, isThere, isWord⟩ := (Option.any_eq_true _ _).mp isLast
  cases extent with
  | zero =>
      exact Nat.lt_irrefl 0 started
  | succ place =>
      have inside : place < runExtent accepts text := by
        rw [isRun]
        exact Nat.lt_succ_self place
      simp [noWord last (accepts_of_lt_runExtent inside isThere)] at isWord

theorem StartsClean.sequence
    (clean : first.StartsClean)
    (second : Pattern) :
    (first ++ second).StartsClean := by
  intro before text extent fits
  obtain ⟨_, _, firstFits, _⟩ := extent?_sequence_eq_some_iff.mp fits
  exact clean firstFits

/-- A sequence ends where its second pattern does. -/
theorem EndsClean.sequence
    (first : Pattern)
    (clean : second.EndsClean) :
    (first ++ second).EndsClean := by
  intro before text extent fits
  obtain ⟨start, rest, _, secondFits, rfl⟩ := extent?_sequence_eq_some_iff.mp fits
  exact (Cutting.betweenWords.allowsAt_drop before text start rest).mp (clean secondFits)

theorem StartsClean.choice
    (firstClean : first.StartsClean)
    (secondClean : second.StartsClean) :
    (first <|> second).StartsClean := by
  intro before text extent fits
  rcases extent?_choice_eq_some_iff.mp fits with isFirst | ⟨-, isSecond⟩
  · exact firstClean isFirst
  · exact secondClean isSecond

/-- A choice ends between words when both of its patterns do. -/
theorem EndsClean.choice
    (firstClean : first.EndsClean)
    (secondClean : second.EndsClean) :
    (first <|> second).EndsClean := by
  intro before text extent fits
  rcases extent?_choice_eq_some_iff.mp fits with isFirst | ⟨-, isSecond⟩
  · exact firstClean isFirst
  · exact secondClean isSecond

end Pattern

namespace Rule

/--
A rule matches when its lead, its body and its trail fit one behind the other and take
something.
-/
theorem matchAt?_eq_some_iff
    {rule : Rule}
    {before : Option Char}
    {text : Text}
    {found : Match} :
    rule.matchAt? before text = some found ↔
      contextExtent? rule.lead before text = some found.lead ∧
        rule.body.extent? (characterBefore before text found.lead) (text.drop found.lead) =
          some found.body ∧
        contextExtent? rule.trail (characterBefore before text found.bodyEnd)
          (text.drop found.bodyEnd) = some found.trail ∧
        0 < found.extent := by
  simp only [matchAt?, Option.bind_eq_bind, Option.bind_eq_some_iff]
  constructor
  · rintro ⟨lead, leadFits, body, bodyFits, trail, trailFits, isMatch⟩
    rw [Option.ite_none_right_eq_some, Option.some.injEq] at isMatch
    obtain ⟨positive, rfl⟩ := isMatch
    exact ⟨leadFits, bodyFits, trailFits, positive⟩
  · rintro ⟨leadFits, bodyFits, trailFits, positive⟩
    exact ⟨found.lead, leadFits, found.body, bodyFits, found.trail, trailFits, if_pos positive⟩

/-- The match of a rule at a place of a text that stands behind some character. -/
def matchAtPlace?
    (rule : Rule)
    (before : Option Char)
    (text : Text)
    (place : Nat) :
    Option Match :=
  rule.matchAt? (characterBefore before text place) (text.drop place)

/-- A match at a place is one in what is left behind an earlier place. -/
theorem matchAtPlace?_drop
    (rule : Rule)
    (before : Option Char)
    (text : Text)
    (start place : Nat) :
    rule.matchAtPlace? (characterBefore before text start) (text.drop start) place =
      rule.matchAtPlace? before text (start + place) := by
  rw [matchAtPlace?, matchAtPlace?, characterBefore_drop, List.drop_drop]

/-- A match at a place is found one place further when a character is put in front. -/
theorem matchAtPlace?_cons
    (rule : Rule)
    (before : Option Char)
    (character : Char)
    (rest : Text)
    (place : Nat) :
    rule.matchAtPlace? (some character) rest place =
      rule.matchAtPlace? before (character :: rest) (place + 1) := by
  rw [Nat.add_comm place, ← matchAtPlace?_drop]
  rfl

/-- A match lies inside the text and takes at least one character. -/
theorem bounds_of_matchAtPlace?
    {rule : Rule}
    {before : Option Char}
    {text : Text}
    {place : Nat}
    {found : Match}
    (isMatch : rule.matchAtPlace? before text place = some found) :
    place + found.extent ≤ text.length ∧ 0 < found.extent := by
  have positive := extent_pos_of_matchAt? isMatch
  have within := extent_le_length_of_matchAt? isMatch
  rw [List.length_drop] at within
  omega

/-- Wherever the rule starts or ends a claim, a text may be cut. -/
def Cuts (cutting : Cutting) (rule : Rule) : Prop :=
  ∀ ⦃before : Option Char⦄ ⦃text : Text⦄ ⦃found : Match⦄,
    rule.matchAt? before text = some found →
      cutting.AllowsAt before text found.lead ∧ cutting.AllowsAt before text found.bodyEnd

/-- Every rule leaves excerpts that are cut anywhere. -/
theorem cuts_anywhere
    (rule : Rule) :
    rule.Cuts .anywhere := by
  intro before text found _
  exact ⟨trivial, trivial⟩

/-- A rule whose body starts and ends between words cuts no word. -/
theorem cuts_betweenWords
    {rule : Rule}
    (starts : rule.body.StartsClean)
    (ends : rule.body.EndsClean) :
    rule.Cuts .betweenWords := by
  intro before text found isMatch
  obtain ⟨-, bodyFits, -⟩ := matchAt?_eq_some_iff.mp isMatch
  exact ⟨(Cutting.betweenWords.allowsAt_drop before text found.lead 0).mp (starts bodyFits),
    (Cutting.betweenWords.allowsAt_drop before text found.lead found.body).mp (ends bodyFits)⟩

/--
A rule whose matches in excerpts are matches in the text with the same lead.
Every match claims something, and what it takes beside its claim is no start of
another match.
-/
structure Robust (cutting : Cutting) (rule : Rule) : Prop where
  lasts
    {before outer : Option Char}
    {text more : Text}
    {found : Match} :
    Excerpt cutting before text outer more →
    rule.matchAt? before text = some found →
    ∃ further,
      rule.matchAt? outer (text ++ more) = some further ∧ further.lead = found.lead
  nonempty
    {before : Option Char}
    {text : Text}
    {found : Match} :
    rule.matchAt? before text = some found →
    0 < found.body
  apart
    {before : Option Char}
    {text : Text}
    {found : Match}
    {place : Nat} :
    rule.matchAt? before text = some found →
    0 < place →
    place < found.lead ∨ found.bodyEnd ≤ place →
    place < found.extent →
    rule.matchAtPlace? before text place = none

variable
    {cutting : Cutting}
    {rule : Rule}
    {accepts : Char → Bool}

/-- A body that opens with some class claims at least one character. -/
theorem body_pos
    (opens : rule.body.Opens accepts)
    {before : Option Char}
    {text : Text}
    {found : Match}
    (isMatch : rule.matchAt? before text = some found) :
    0 < found.body := by
  obtain ⟨-, bodyFits, -⟩ := matchAt?_eq_some_iff.mp isMatch
  exact (opens bodyFits).1

/-- A steady context fits in the line with the extent that it has in an excerpt. -/
theorem contextExtent?_excerpt
    {context : Option Pattern}
    (steady : ∀ pattern ∈ context, pattern.Steady cutting)
    {before outer : Option Char}
    {text more : Text}
    {extent : Nat}
    (excerpt : Excerpt cutting before text outer more)
    (fits : contextExtent? context before text = some extent) :
    contextExtent? context outer (text ++ more) = some extent := by
  cases context with
  | none =>
      exact fits
  | some pattern =>
      exact steady pattern rfl excerpt fits

/-- A rule without a trail. -/
theorem robust_of_lead
    (noTrail : rule.trail = none)
    (leadSteady : ∀ pattern ∈ rule.lead, pattern.Steady cutting)
    (leadShort : ∀ ⦃before : Option Char⦄ ⦃text : Text⦄ ⦃extent : Nat⦄,
      contextExtent? rule.lead before text = some extent → extent ≤ 1)
    (bodyLasting : rule.body.Lasting cutting)
    (opens : rule.body.Opens accepts) :
    rule.Robust cutting where
  lasts := by
    intro before outer text more found excerpt isMatch
    obtain ⟨leadFits, bodyFits, -⟩ := matchAt?_eq_some_iff.mp isMatch
    have within := contextExtent?_le_length leadFits
    obtain ⟨body, furtherFits⟩ := bodyLasting (excerpt.drop within) bodyFits
    rw [← List.drop_append_of_le_length within] at furtherFits
    refine ⟨⟨found.lead, body, 0⟩, matchAt?_eq_some_iff.mpr ⟨?_, furtherFits, ?_, ?_⟩, rfl⟩
    · exact contextExtent?_excerpt leadSteady excerpt leadFits
    · rw [noTrail]
      rfl
    · exact Nat.add_pos_left (Nat.add_pos_right _ (opens furtherFits).1) 0
  nonempty := body_pos opens
  apart := by
    intro before text found place isMatch positive beside inside
    obtain ⟨leadFits, -, trailFits, -⟩ := matchAt?_eq_some_iff.mp isMatch
    have short := leadShort leadFits
    rw [noTrail] at trailFits
    have noTrailExtent : 0 = found.trail := Option.some.inj trailFits
    simp only [Match.extent, Match.bodyEnd] at beside inside
    omega

/-- A rule without a lead matches where its body starts. -/
theorem exists_start_of_matchAt?
    (noLead : rule.lead = none)
    (opens : rule.body.Opens accepts)
    {before : Option Char}
    {text : Text}
    {found : Match}
    (isMatch : rule.matchAt? before text = some found) :
    found.lead = 0 ∧ ∃ first, text[0]? = some first ∧ accepts first := by
  obtain ⟨leadFits, bodyFits, -⟩ := matchAt?_eq_some_iff.mp isMatch
  rw [noLead] at leadFits
  have noLeadExtent : found.lead = 0 := (Option.some.inj leadFits).symm
  rw [noLeadExtent] at bodyFits
  obtain ⟨-, first, rest, same, accepted⟩ := opens bodyFits
  rw [List.drop_zero] at same
  exact ⟨noLeadExtent, first, by rw [same]; rfl, accepted⟩

/-- A rule without a lead matches only where its body may open. -/
theorem matchAt?_eq_none_of_opens
    {rule : Rule}
    {accepts : Char → Bool}
    (noLead : rule.lead = none)
    (opens : rule.body.Opens accepts)
    {character : Char}
    (noStart : accepts character = false)
    (before : Option Char)
    (rest : Text) :
    rule.matchAt? before (character :: rest) = none := by
  refine Option.eq_none_iff_forall_ne_some.mpr ?_
  intro found isMatch
  obtain ⟨-, first, isFirst, accepted⟩ := exists_start_of_matchAt? noLead opens isMatch
  obtain rfl : character = first := Option.some.inj isFirst
  simp [noStart] at accepted

/-- A rule with a trail that no match starts in. -/
theorem robust_of_trail
    {fills : Char → Bool}
    {stop : Char}
    (noLead : rule.lead = none)
    (isTrail : rule.trail = some (.any fills ++ .character stop))
    (bodySteady : rule.body.Steady cutting)
    (opens : rule.body.Opens accepts)
    (noStart : ∀ character, accepts character → fills character = false ∧ character ≠ stop) :
    rule.Robust cutting where
  lasts := by
    intro before outer text more found excerpt isMatch
    obtain ⟨leadFits, bodyFits, trailFits, positive⟩ := matchAt?_eq_some_iff.mp isMatch
    have leadWithin := contextExtent?_le_length leadFits
    have bodyWithin : found.bodyEnd ≤ text.length := by
      have bound := Pattern.extent?_le_length bodyFits
      rw [List.length_drop] at bound
      exact Nat.add_le_of_le_sub' leadWithin bound
    have furtherBody := bodySteady (excerpt.drop leadWithin) bodyFits
    rw [← List.drop_append_of_le_length leadWithin] at furtherBody
    rw [isTrail] at trailFits
    have furtherTrail :=
      Pattern.steady_any_character fills stop (excerpt.drop bodyWithin) trailFits
    rw [← List.drop_append_of_le_length bodyWithin] at furtherTrail
    rw [noLead] at leadFits
    refine ⟨found, matchAt?_eq_some_iff.mpr ⟨?_, furtherBody, ?_, positive⟩, rfl⟩
    · rw [noLead]
      exact leadFits
    · rw [isTrail]
      exact furtherTrail
  nonempty := body_pos opens
  apart := by
    intro before text found place isMatch positive beside inside
    refine Option.eq_none_iff_forall_ne_some.mpr ?_
    intro other isOther
    obtain ⟨noLeadExtent, -⟩ := exists_start_of_matchAt? noLead opens isMatch
    obtain ⟨-, first, isFirst, accepted⟩ := exists_start_of_matchAt? noLead opens isOther
    obtain ⟨-, -, trailFits, -⟩ := matchAt?_eq_some_iff.mp isMatch
    rw [isTrail] at trailFits
    have behind : found.bodyEnd ≤ place := beside.resolve_left (by omega)
    have inTrail : place - found.bodyEnd < found.trail :=
      Nat.sub_lt_left_of_lt_add behind inside
    have isThere : (text.drop found.bodyEnd)[place - found.bodyEnd]? = some first := by
      rw [List.getElem?_drop, Nat.add_sub_cancel' behind, ← isFirst, List.getElem?_drop,
        Nat.add_zero]
    obtain ⟨noFill, noStop⟩ := noStart first accepted
    rcases Pattern.accepts_of_any_character trailFits inTrail isThere with isFill | isStop
    · simp [noFill] at isFill
    · exact noStop isStop

end Rule

end Guidebook
