import Guidebook.Proofs.Code.ClaimedParts
import Guidebook.Proofs.Code.Plain

namespace Guidebook

/-!
# Classified fragments and matches

The rules of a language claim a line one after the other, each in the stretches that
the rules before it have left plain.  A classified fragment of the line is what one of
these matches claims, all of it and nothing else, and every match is such a fragment.
The induction is on the rules from the last one back: what it finds classified either
comes from one of its own matches or was there before it.
-/

/-! ## Places of fragments -/

namespace Fragment

/-- The fragment stands at a place of the text that some fragments make up. -/
def StandsAt (fragment : Fragment) (fragments : List Fragment) (place : Nat) : Prop :=
  ∃ front back,
    fragments = front ++ fragment :: back ∧ place = (front.flatMap Fragment.text).length

variable
    {fragment first : Fragment}
    {fragments front back : List Fragment}
    {place : Nat}

/-- A fragment that stands somewhere is one of the fragments. -/
theorem StandsAt.mem
    (standsAt : fragment.StandsAt fragments place) :
    fragment ∈ fragments := by
  obtain ⟨front, back, rfl, -⟩ := standsAt
  exact List.mem_append_right front List.mem_cons_self

/-- Each of the fragments stands somewhere. -/
theorem exists_standsAt_of_mem
    (member : fragment ∈ fragments) :
    ∃ place, fragment.StandsAt fragments place := by
  obtain ⟨front, back, same⟩ := List.append_of_mem member
  exact ⟨_, front, back, same, rfl⟩

/-- A fragment is the first one, or it stands further on by the length of that. -/
theorem standsAt_cons_iff :
    fragment.StandsAt (first :: back) place ↔
      (fragment = first ∧ place = 0) ∨
        ∃ further, fragment.StandsAt back further ∧ place = first.text.length + further := by
  constructor
  · rintro ⟨front, rest, same, rfl⟩
    rcases List.cons_eq_append_iff.mp same with ⟨rfl, isFirst⟩ | ⟨front, rfl, rfl⟩
    · exact .inl ⟨(List.cons.inj isFirst).1, rfl⟩
    · refine .inr ⟨_, ⟨front, rest, rfl, rfl⟩, ?_⟩
      rw [List.flatMap_cons, List.length_append]
  · rintro (⟨rfl, rfl⟩ | ⟨_, ⟨front, rest, rfl, rfl⟩, rfl⟩)
    · exact ⟨[], back, rfl, rfl⟩
    · refine ⟨first :: front, rest, rfl, ?_⟩
      rw [List.flatMap_cons, List.length_append]

/-- A fragment stands among the ones in front, or further on by the length of these. -/
theorem standsAt_append_iff :
    fragment.StandsAt (front ++ back) place ↔
      fragment.StandsAt front place ∨
        ∃ further,
          fragment.StandsAt back further ∧
            place = (front.flatMap Fragment.text).length + further := by
  constructor
  · rintro ⟨before, behind, same, rfl⟩
    rcases List.append_eq_append_iff.mp same with
      ⟨more, rfl, sameBack⟩ | ⟨more, rfl, sameBehind⟩
    · refine .inr ⟨_, ⟨more, behind, sameBack, rfl⟩, ?_⟩
      rw [List.flatMap_append, List.length_append]
    · rcases List.cons_eq_append_iff.mp sameBehind with ⟨rfl, isFirst⟩ | ⟨rest, rfl, -⟩
      · exact .inr ⟨0, ⟨[], behind, isFirst, rfl⟩, by simp⟩
      · exact .inl ⟨before, rest, rfl, rfl⟩
  · rintro (⟨before, behind, rfl, rfl⟩ | ⟨_, ⟨before, behind, rfl, rfl⟩, rfl⟩)
    · exact ⟨before, behind ++ back, by simp, rfl⟩
    · refine ⟨front ++ before, behind, by simp, ?_⟩
      rw [List.flatMap_append, List.length_append]

/-- What fragments are divided into stands where they stand. -/
theorem standsAt_flatMap_iff
    {divided : Fragment → List Fragment}
    (keeps : ∀ whole, (divided whole).flatMap Fragment.text = whole.text) :
    fragment.StandsAt (fragments.flatMap divided) place ↔
      ∃ whole start further,
        whole.StandsAt fragments start ∧
          fragment.StandsAt (divided whole) further ∧ place = start + further := by
  induction fragments generalizing place with
  | nil =>
      constructor
      · exact fun standsAt => (List.not_mem_nil standsAt.mem).elim
      · rintro ⟨_, _, _, standsAt, -⟩
        exact (List.not_mem_nil standsAt.mem).elim
  | cons first rest inductionHypothesis =>
      rw [List.flatMap_cons, standsAt_append_iff, keeps]
      constructor
      · rintro (inFirst | ⟨_, inRest, rfl⟩)
        · exact ⟨first, 0, place, standsAt_cons_iff.mpr (.inl ⟨rfl, rfl⟩), inFirst,
            (Nat.zero_add place).symm⟩
        · obtain ⟨whole, start, further, standsAt, inWhole, rfl⟩ := inductionHypothesis.mp inRest
          exact ⟨whole, first.text.length + start, further,
            standsAt_cons_iff.mpr (.inr ⟨start, standsAt, rfl⟩), inWhole, (Nat.add_assoc _ _ _).symm⟩
      · rintro ⟨whole, start, further, standsAt, inWhole, rfl⟩
        rcases standsAt_cons_iff.mp standsAt with ⟨rfl, rfl⟩ | ⟨later, standsBehind, rfl⟩
        · rw [Nat.zero_add]
          exact .inl inWhole
        · exact .inr ⟨later + further,
            inductionHypothesis.mpr ⟨whole, later, further, standsBehind, inWhole, rfl⟩,
            Nat.add_assoc _ _ _⟩

/-- Fragments that share a character are the same one. -/
theorem StandsAt.eq_of_overlap
    {other : Fragment}
    {otherPlace : Nat}
    (standsAt : fragment.StandsAt fragments place)
    (otherStands : other.StandsAt fragments otherPlace)
    (startsInside : place < otherPlace + other.text.length)
    (otherInside : otherPlace < place + fragment.text.length) :
    fragment = other ∧ place = otherPlace := by
  induction fragments generalizing place otherPlace with
  | nil =>
      exact (List.not_mem_nil standsAt.mem).elim
  | cons first rest inductionHypothesis =>
      rcases standsAt_cons_iff.mp standsAt with ⟨rfl, rfl⟩ | ⟨further, standsBehind, rfl⟩
      · rcases standsAt_cons_iff.mp otherStands with ⟨rfl, rfl⟩ | ⟨_, -, rfl⟩
        · exact ⟨rfl, rfl⟩
        · omega
      · rcases standsAt_cons_iff.mp otherStands with ⟨rfl, rfl⟩ | ⟨otherFurther, otherBehind, rfl⟩
        · omega
        · obtain ⟨same, samePlace⟩ :=
            inductionHypothesis standsBehind otherBehind (by omega) (by omega)
          exact ⟨same, congrArg (first.text.length + ·) samePlace⟩

end Fragment

namespace Rule

variable
    {kind : TokenKind}
    {part : Text}
    {place : Nat}

/-- Without rules nothing is classified. -/
theorem not_standsAt_divide_nil
    (text : Text) :
    ¬ (Fragment.classified kind part).StandsAt (divide [] text) place := by
  intro standsAt
  have member := standsAt.mem
  rw [divide] at member
  split at member
  · cases member
  · cases List.mem_singleton.mp member

/-- The classified parts of a cut text are what the claims take. -/
theorem standsAt_cutAt_iff
    {claimedKind : TokenKind}
    {text : Text}
    {start : Nat}
    {claims : List Extent}
    (inOrder : InOrder start text.length claims) :
    (Fragment.classified kind part).StandsAt
        (cutAt claimedKind (divide []) text start claims) place ↔
      claimedKind = kind ∧
        ∃ claim ∈ claims,
          start + place = claim.start ∧ part = text.slice claim.start claim.stop := by
  induction claims generalizing start place with
  | nil =>
      constructor
      · exact fun standsAt => (not_standsAt_divide_nil (text.drop start) standsAt).elim
      · rintro ⟨-, claim, isClaim, -⟩
        cases isClaim
  | cons claim later inductionHypothesis =>
      cases inOrder with
      | cons startsLater forwards laterInOrder =>
          have within := Nat.le_trans forwards laterInOrder.le
          have gapLength := text.length_slice start within
          have claimLength := text.length_slice claim.start laterInOrder.le
          rw [cutAt, Fragment.standsAt_append_iff, flatMap_text_divide, gapLength,
            or_iff_right (not_standsAt_divide_nil _)]
          constructor
          · rintro ⟨further, standsAt, rfl⟩
            rcases Fragment.standsAt_cons_iff.mp standsAt with
              ⟨isClaim, rfl⟩ | ⟨beyond, standsBehind, rfl⟩
            · cases isClaim
              exact ⟨rfl, claim, List.mem_cons_self, by omega, rfl⟩
            · obtain ⟨sameKind, other, isLater, isStart, isPart⟩ :=
                (inductionHypothesis laterInOrder).mp standsBehind
              refine ⟨sameKind, other, List.mem_cons_of_mem claim isLater, ?_, isPart⟩
              change start + (claim.start - start + ((text.slice claim.start claim.stop).length +
                beyond)) = other.start
              omega
          · rintro ⟨rfl, other, member, isStart, rfl⟩
            rcases List.mem_cons.mp member with rfl | isLater
            · exact ⟨0, Fragment.standsAt_cons_iff.mpr (.inl ⟨rfl, rfl⟩), by omega⟩
            · have isBehind := laterInOrder.le_start isLater
              refine ⟨(text.slice claim.start claim.stop).length + (other.start - claim.stop),
                Fragment.standsAt_cons_iff.mpr (.inr ⟨other.start - claim.stop, ?_, rfl⟩), by omega⟩
              exact (inductionHypothesis laterInOrder).mpr
                ⟨rfl, other, isLater, Nat.add_sub_cancel' isBehind, rfl⟩

/-- One rule classifies what its claims take, as long as they take anything. -/
theorem standsAt_divide_singleton_iff
    {rule : Rule}
    {text : Text} :
    (Fragment.classified kind part).StandsAt (divide [rule] text) place ↔
      rule.kind = kind ∧
        ∃ claim ∈ rule.claims text,
          claim.start < claim.stop ∧ place = claim.start ∧
            part = text.slice claim.start claim.stop := by
  refine (standsAt_cutAt_iff (rule.inOrder_filter_claims text)).trans ?_
  simp only [List.mem_filter, Extent.isEmpty, Nat.zero_add, Bool.not_eq_eq_eq_not, Bool.not_true,
    decide_eq_false_iff_not, Nat.not_le, and_assoc]

/-- Later rules leave what is classified where it stands. -/
theorem standsAt_flatMap_divideFragment
    {fragments : List Fragment}
    (later : List Rule)
    (standsAt : (Fragment.classified kind part).StandsAt fragments place) :
    (Fragment.classified kind part).StandsAt (fragments.flatMap (divideFragment later)) place :=
  (Fragment.standsAt_flatMap_iff (flatMap_text_divideFragment later)).mpr
    ⟨_, place, 0, standsAt, ⟨[], [], rfl, rfl⟩, rfl⟩

end Rule

/-! ## Matches in a line -/

/-- A match of one of some rules, in a stretch of a line that those before it have left plain. -/
structure LineMatch (rules : List Rule) (line : Text) where
  earlier : List Rule
  rule : Rule
  later : List Rule
  inOrder : rules = earlier ++ rule :: later
  stretch : Text
  stretchStart : Nat
  isPlain : (Fragment.plain stretch).StandsAt (Rule.classify earlier line) stretchStart
  spot : Nat
  found : Match
  isMatch : rule.matchAtPlace? none stretch spot = some found
  isClaimed : ⟨spot + found.lead, spot + found.bodyEnd⟩ ∈ rule.claims stretch

namespace LineMatch

variable
    {rules : List Rule}
    {line : Text}

/-- Where the claimed text starts in the line. -/
def start (taken : LineMatch rules line) : Nat :=
  taken.stretchStart + (taken.spot + taken.found.lead)

/-- The claimed text. -/
def text (taken : LineMatch rules line) : Text :=
  taken.stretch.slice (taken.spot + taken.found.lead) (taken.spot + taken.found.bodyEnd)

theorem rule_mem
    (taken : LineMatch rules line) :
    taken.rule ∈ rules := by
  obtain ⟨earlier, rule, later, rfl⟩ := taken
  exact List.mem_append_right earlier List.mem_cons_self

/-- The claimed text is what the body of the rule takes. -/
theorem describes_text
    (taken : LineMatch rules line)
    {expression : Expression}
    (covers : expression.Covers taken.rule.body) :
    expression.Describes taken.text := by
  obtain ⟨-, bodyFits, -⟩ := Rule.matchAt?_eq_some_iff.mp taken.isMatch
  have isText :
      taken.text = ((taken.stretch.drop taken.spot).drop taken.found.lead).take taken.found.body := by
    rw [text, Text.slice, List.drop_drop, Match.bodyEnd, Nat.add_sub_add_left,
      Nat.add_sub_cancel_left]
  rw [isText]
  exact covers bodyFits

/-- The rule of a match divides what the rules before it leave, and those behind it the rest. -/
theorem classify_eq
    (taken : LineMatch rules line) :
    Rule.classify rules line =
      ((Rule.classify taken.earlier line).flatMap (Rule.divideFragment [taken.rule])).flatMap
        (Rule.divideFragment taken.later) := by
  obtain ⟨earlier, rule, later, rfl⟩ := taken
  rw [Rule.classify_eq_divide, Rule.classify_eq_divide, ← Rule.divide_append,
    ← Rule.divide_append, List.append_assoc]
  rfl

/-- A match that claims anything is a fragment of the line. -/
theorem standsAt
    (taken : LineMatch rules line)
    (nonempty : 0 < taken.found.body) :
    (Fragment.classified taken.rule.kind taken.text).StandsAt (Rule.classify rules line)
      taken.start := by
  rw [taken.classify_eq]
  refine Rule.standsAt_flatMap_divideFragment taken.later ?_
  refine (Fragment.standsAt_flatMap_iff (Rule.flatMap_text_divideFragment _)).mpr
    ⟨_, taken.stretchStart, taken.spot + taken.found.lead, taken.isPlain, ?_, rfl⟩
  refine Rule.standsAt_divide_singleton_iff.mpr ⟨rfl, _, taken.isClaimed, ?_, rfl, rfl⟩
  rw [Match.bodyEnd]
  exact Nat.add_lt_add_left (Nat.lt_add_of_pos_right nonempty) _

/-- A further rule leaves the matches of those before it as they are. -/
def concat (taken : LineMatch rules line) (last : Rule) : LineMatch (rules ++ [last]) line where
  earlier := taken.earlier
  rule := taken.rule
  later := taken.later ++ [last]
  inOrder := (congrArg (· ++ [last]) taken.inOrder).trans (List.append_assoc _ _ _)
  stretch := taken.stretch
  stretchStart := taken.stretchStart
  isPlain := taken.isPlain
  spot := taken.spot
  found := taken.found
  isMatch := taken.isMatch
  isClaimed := taken.isClaimed

end LineMatch

/-- Whatever is classified in a line is claimed by a match. -/
theorem Fragment.StandsAt.exists_lineMatch
    {rules : List Rule}
    {line : Text}
    {kind : TokenKind}
    {part : Text}
    {place : Nat}
    (standsAt : (classified kind part).StandsAt (Rule.classify rules line) place) :
    ∃ taken : LineMatch rules line,
      taken.start = place ∧ taken.rule.kind = kind ∧ taken.text = part := by
  induction rules using List.reverseRecOn generalizing place with
  | nil =>
      rw [Rule.classify_eq_divide] at standsAt
      exact (Rule.not_standsAt_divide_nil line standsAt).elim
  | append_singleton earlier last inductionHypothesis =>
      rw [Rule.classify_eq_divide, Rule.divide_append, ← Rule.classify_eq_divide] at standsAt
      obtain ⟨⟨owner, stretch⟩, start, further, wholeStands, inWhole, rfl⟩ :=
        (standsAt_flatMap_iff (Rule.flatMap_text_divideFragment _)).mp standsAt
      cases owner with
      | none =>
          obtain ⟨sameKind, claim, isClaim, -, rfl, rfl⟩ :=
            Rule.standsAt_divide_singleton_iff.mp inWhole
          obtain ⟨spot, found, isMatch, rfl⟩ := Rule.exists_match_of_mem_claimsFrom isClaim
          simp only [Nat.zero_add] at isClaim
          refine ⟨⟨earlier, last, [], rfl, stretch, start, wholeStands, spot, found, isMatch,
            isClaim⟩, ?_, sameKind, ?_⟩
          · simp only [LineMatch.start, Nat.zero_add]
          · simp only [LineMatch.text, Nat.zero_add]
      | some other =>
          -- The last rule has left the fragment alone.
          rcases standsAt_cons_iff.mp inWhole with ⟨isWhole, rfl⟩ | ⟨_, inNothing, -⟩
          · rw [← isWhole] at wholeStands
            obtain ⟨taken, rfl, sameKind, samePart⟩ := inductionHypothesis wholeStands
            exact ⟨taken.concat last, rfl, sameKind, samePart⟩
          · exact (List.not_mem_nil inNothing.mem).elim

namespace Language

variable
    {language : Language}
    {line : Text}

/-- A match that is taken stands as a fragment of its kind where it starts. -/
theorem standsAt_highlightLine
    (taken : LineMatch language.rules line) :
    (Fragment.classified taken.rule.kind taken.text).StandsAt (language.highlightLine line)
      taken.start :=
  taken.standsAt ((Rule.settled_rules language).body_pos taken.rule_mem taken.isMatch)

/--
Classification is sound.  A classified fragment is of a kind that a rule of the
language is for, and all of its text is described by the expression for that kind.
The classified fragments of a line are the claimed texts of the matches in it, each in
its place, and a match that has a character in common with one of them claims all of it
and nothing else.
-/
theorem highlightLine_sound
    (language : Language)
    (line : Text) :
    (∀ kind text,
      Fragment.classified kind text ∈ language.highlightLine line →
        (∃ rule ∈ language.rules, rule.kind = kind) ∧
          ∃ expression,
            language.claimedPart? kind = some expression ∧ expression.Describes text) ∧
      (∀ place kind text,
        (Fragment.classified kind text).StandsAt (language.highlightLine line) place ↔
          ∃ taken : LineMatch language.rules line,
            taken.start = place ∧ taken.rule.kind = kind ∧ taken.text = text) ∧
      ∀ (place : Nat) (kind : TokenKind) (text : Text) (taken : LineMatch language.rules line),
        (Fragment.classified kind text).StandsAt (language.highlightLine line) place →
          taken.start < place + text.length →
          place < taken.start + taken.text.length →
            taken.start = place ∧ taken.rule.kind = kind ∧ taken.text = text := by
  refine ⟨?_, ?_, ?_⟩
  · intro kind text member
    obtain ⟨place, standsAt⟩ := Fragment.exists_standsAt_of_mem member
    obtain ⟨taken, -, rfl, rfl⟩ := standsAt.exists_lineMatch
    obtain ⟨expression, isPart, covers⟩ := language.vouches_of_mem_rules taken.rule taken.rule_mem
    exact ⟨⟨taken.rule, taken.rule_mem, rfl⟩, expression, isPart, taken.describes_text covers⟩
  · intro place kind text
    constructor
    · exact Fragment.StandsAt.exists_lineMatch
    · rintro ⟨taken, rfl, rfl, rfl⟩
      exact standsAt_highlightLine taken
  · intro place kind text taken standsAt startsInside isInside
    obtain ⟨same, samePlace⟩ :=
      (standsAt_highlightLine taken).eq_of_overlap standsAt startsInside isInside
    rw [Fragment.classified, Fragment.classified, Fragment.mk.injEq, Option.some.injEq] at same
    exact ⟨samePlace, same.1, same.2⟩

/-- Of two strings next to each other the second one is a match of its own. -/
theorem highlightLine_sound_adjacent :
    ∃ taken : LineMatch bash.rules ['"', '"', '\'', '\''],
      taken.start = 2 ∧ taken.rule.kind = .string ∧ taken.text = ['\'', '\''] := by
  have isSecond :
      bash.highlightLine ['"', '"', '\'', '\''] =
        [Fragment.classified .string ['"', '"'], Fragment.classified .string ['\'', '\'']] := by
    decide +kernel
  exact ((bash.highlightLine_sound _).2.1 2 .string ['\'', '\'']).mp
    ⟨[Fragment.classified .string ['"', '"']], [], isSecond, rfl⟩

end Language

end Guidebook
