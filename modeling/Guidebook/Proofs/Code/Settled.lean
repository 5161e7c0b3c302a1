import Guidebook.Proofs.Code.Matches
import Guidebook.Proofs.Text.Blank

namespace Guidebook

/-!
# The rules of the languages, in excerpts

Rules that are told by characters of their own may be run on any excerpt.  In
every language they stand before the rules that look for the ends of words, and
from the first of these on all rules claim whole words only.
-/

/-! ## Kinds of characters -/

/-- A digit of any script is a word character, so that a number lies inside one word. -/
theorem isWordCharacter_of_isDecimalDigit
    (character : Char)
    (isDigit : isDecimalDigit character) :
    isWordCharacter character := by
  rw [isWordCharacter]
  split
  · next isAscii =>
      rw [isDecimalDigit, if_pos isAscii] at isDigit
      simp [Char.isAlphanum, isDigit]
  · simp [isDigit]

theorem isWordCharacter_of_isDigit
    (character : Char)
    (isDigit : character.isDigit) :
    isWordCharacter character := by
  have isAscii : character.val < 0x80 := by
    simp only [Char.isDigit, Bool.and_eq_true, decide_eq_true_eq] at isDigit
    exact Nat.lt_of_le_of_lt isDigit.2 (by decide)
  rw [isWordCharacter, if_pos isAscii]
  simp [Char.isAlphanum, isDigit]

/-- No code of a blank is that of a word character. -/
theorem not_isWordCharacter_of_mem_blankCodes :
    ∀ code ∈ blankCodes, isWordCharacter (Char.ofNat code) = false := by
  decide +kernel

/-- A blank ends a word: no word character is blank. -/
theorem not_isBlank_of_isWordCharacter
    (character : Char)
    (isWord : isWordCharacter character) :
    isBlank character = false := by
  by_contra blank
  have noWord := not_isWordCharacter_of_mem_blankCodes character.toNat
    (toNat_mem_blankCodes (by simpa using blank))
  rw [Char.ofNat_toNat, isWord] at noWord
  cases noWord

namespace Rule

open Pattern

/-! ## Rules of all languages -/

/-- A rule without contexts. -/
theorem robust_of_body
    {cutting : Cutting}
    {rule : Rule}
    {accepts : Char → Bool}
    (noLead : rule.lead = none)
    (noTrail : rule.trail = none)
    (bodyLasting : rule.body.Lasting cutting)
    (opens : rule.body.Opens accepts) :
    rule.Robust cutting := by
  refine robust_of_lead noTrail ?_ ?_ bodyLasting opens
  · simp [noLead]
  · intro before text extent fits
    rw [noLead] at fits
    obtain rfl := Option.some.inj fits
    exact Nat.zero_le 1

/-- A comment that is found in an excerpt is found in the whole line, wherever that is cut. -/
theorem robust_comment :
    comment.Robust .anywhere :=
  robust_of_body rfl rfl ((steady_one _).sequence_lasting (lasting_any _))
    ((opens_one _).sequence _)

/-- A string starts with its quote, so what comes before an excerpt cannot hide it. -/
theorem robust_string :
    string.Robust .anywhere :=
  robust_of_body rfl rfl
    ((steady_quoted (by decide)).lasting.choice (steady_quoted (by decide)).lasting)
    ((opens_quoted _).choice (opens_quoted _))

/-- Whole words are found alike in a line and in an excerpt that is cut between words. -/
theorem robust_words
    (kind : TokenKind)
    {choices : List String}
    (nonempty : "" ∉ choices) :
    (words kind choices).Robust .betweenWords :=
  robust_of_body rfl rfl
    ((steady_boundary.sequence (steady_word nonempty)).sequence steady_boundary).lasting
    ((opens_word nonempty).boundary_sequence.sequence _)

/-- Claims of whole words leave excerpts that are cut between words. -/
theorem cuts_words
    (kind : TokenKind)
    (choices : List String) :
    (words kind choices).Cuts .betweenWords :=
  cuts_betweenWords ((startsClean_boundary.sequence _).sequence _)
    (endsClean_boundary.sequence _)

/-- A run of digits is not longer in the line than in an excerpt that ends between words. -/
theorem steady_digits :
    (run isDecimalDigit).Steady .betweenWords :=
  steady_run_of_words isWordCharacter_of_isDecimalDigit

theorem steady_wholeNumber :
    wholeNumber.Steady .betweenWords :=
  (steady_boundary.sequence steady_digits).sequence steady_boundary

theorem opens_wholeNumber :
    wholeNumber.Opens isDecimalDigit :=
  (opens_run _).boundary_sequence.sequence _

/-! ## Rules of shell commands -/

/-- A placeholder is closed by its own bracket, so any excerpt that holds it shows it. -/
theorem robust_placeholder :
    placeholder.Robust .anywhere :=
  robust_of_body rfl rfl
    ((steady_one _).sequence (steady_run_character _ _)).sequence_assoc.lasting
    (((opens_one _).sequence _).sequence _)

/-- A variable of the shell is known by its dollar sign; a longer name only makes it longer. -/
theorem robust_shellVariable :
    shellVariable.Robust .anywhere := by
  have opens : shellVariable.body.Opens fun first => first == '$' || first == '$' :=
    ((opens_one _).sequence _).choice ((((opens_one _).sequence _).sequence _).sequence _)
  refine robust_of_body rfl rfl (Lasting.choice ?plain ?braced) opens
  case plain =>
    exact (steady_one _).sequence_lasting (lasting_run _)
  case braced =>
    exact (((steady_one _).sequence (steady_one _)).sequence
      (steady_run_character _ _)).sequence_assoc.lasting

/-- A flag asks for a space before it, and an excerpt that shows the flag holds that space. -/
theorem robust_flag :
    flag.Robust .anywhere := by
  refine robust_of_lead rfl ?_ ?_ ((steady_one _).sequence_lasting (lasting_run _))
    ((opens_one _).sequence _)
  · intro pattern isLead
    obtain rfl := Option.some.inj isLead
    exact steady_one _
  · intro before text extent fits
    have isSpace : (character ' ').extent? before text = some extent := fits
    obtain ⟨_, _, _, _, rfl⟩ := extent?_one_eq_some_iff.mp isSpace
    exact Nat.le_refl 1

/-- Dotted numbers are the same in an excerpt that is cut between words as in the line. -/
theorem steady_dottedNumber :
    dottedNumber.Steady .betweenWords := by
  have group : (shortRun isDecimalDigit 3).Steady .betweenWords :=
    steady_shortRun_of_words isWordCharacter_of_isDecimalDigit 3
  have stop : (character '.').Steady .betweenWords := steady_one _
  exact (((((((steady_boundary.sequence group).sequence stop).sequence group).sequence
    stop).sequence group).sequence stop).sequence group).sequence steady_boundary

theorem opens_dottedNumber :
    dottedNumber.Opens isDecimalDigit :=
  (((((((opens_shortRun _ _).boundary_sequence.sequence _).sequence _).sequence
    _).sequence _).sequence _).sequence _).sequence _

/-- The numbers of the shell last when an excerpt that is cut between words becomes the line. -/
theorem robust_shellNumber :
    shellNumber.Robust .betweenWords :=
  robust_of_body rfl rfl (steady_dottedNumber.lasting.choice steady_wholeNumber.lasting)
    (opens_dottedNumber.choice opens_wholeNumber)

/-- The claims of numbers of the shell start and end between words. -/
theorem cuts_shellNumber :
    shellNumber.Cuts .betweenWords := by
  refine cuts_betweenWords (StartsClean.choice ?_ ?_)
    ((endsClean_boundary.sequence _).choice (endsClean_boundary.sequence _))
  · exact (((((((startsClean_boundary.sequence _).sequence _).sequence _).sequence _).sequence
      _).sequence _).sequence _).sequence _
  · exact (startsClean_boundary.sequence _).sequence _

theorem robust_shellOperator :
    shellOperator.Robust .betweenWords :=
  robust_of_body rfl rfl (lasting_run _) (opens_run _)

/-- Operators of the shell are no word characters, so that their claims cut no word. -/
theorem cuts_shellOperator :
    shellOperator.Cuts .betweenWords := by
  have noWord
      (character : Char)
      (isOperator : (character == '|' || character == '&' || character == '>') = true) :
      isWordCharacter character = false := by
    simp only [Bool.or_eq_true, beq_iff_eq] at isOperator
    rcases isOperator with (rfl | rfl) | rfl
    · decide
    · decide
    · decide
  exact cuts_betweenWords ((opens_run _).startsClean noWord) (endsClean_run_noWords noWord)

/-! ## Rules of Python code -/

/-- A name of a function lasts: the bracket behind it is in the excerpt as well. -/
theorem robust_function :
    function.Robust .betweenWords := by
  refine robust_of_trail rfl rfl
    (steady_boundary.sequence (steady_run_of_words fun _ isWord => isWord))
    (opens_run _).boundary_sequence ?_
  intro character isWord
  refine ⟨not_isBlank_of_isWordCharacter character isWord, ?_⟩
  rintro rfl
  revert isWord
  decide

/-- Names of functions are whole words, so their claims cut none. -/
theorem cuts_function :
    function.Cuts .betweenWords :=
  cuts_betweenWords (startsClean_boundary.sequence _) (endsClean_run_words.sequence _)

/-- A decorator of Python lasts when an excerpt that is cut between words becomes the line. -/
theorem robust_decorator :
    decorator.Robust .betweenWords :=
  robust_of_body rfl rfl ((steady_one _).sequence_lasting (lasting_run _))
    ((opens_one _).sequence _)

theorem cuts_decorator :
    decorator.Cuts .betweenWords := by
  refine cuts_betweenWords (((opens_one _).sequence _).startsClean ?_)
    (endsClean_run_words.sequence _)
  intro character isAt
  rw [beq_iff_eq.mp isAt]
  decide

/-- Numbers of Python last when an excerpt that is cut between words becomes the line. -/
theorem robust_pythonNumber :
    pythonNumber.Robust .betweenWords :=
  robust_of_body rfl rfl steady_wholeNumber.lasting opens_wholeNumber

/-- The claims of numbers of Python start and end between words. -/
theorem cuts_pythonNumber :
    pythonNumber.Cuts .betweenWords :=
  cuts_betweenWords ((startsClean_boundary.sequence _).sequence _)
    (endsClean_boundary.sequence _)

/-! ## Rules of JSON data -/

/-- A key of JSON lasts: its quotes and the colon behind it are in the excerpt. -/
theorem robust_jsonKey :
    jsonKey.Robust .anywhere := by
  refine robust_of_trail rfl rfl (steady_quoted (by decide)) (opens_quoted _) ?_
  intro character isQuote
  rw [beq_iff_eq.mp isQuote]
  decide

/-- The part of a number in front of the point is the same in an excerpt as in the line. -/
theorem steady_wholePart :
    wholePart.Steady .betweenWords := by
  refine Steady.choice (steady_one _) (steady_one_any_of_words ?_ ?_)
    (opens_one _) ((opens_one _).sequence _) ?_
  · intro digit isLead
    rw [Bool.and_eq_true] at isLead
    exact isWordCharacter_of_isDigit digit isLead.2
  · exact isWordCharacter_of_isDecimalDigit
  · intro digit isLead
    rw [Bool.and_eq_true, bne_iff_ne] at isLead
    exact beq_eq_false_iff_ne.mpr isLead.1

theorem steady_fraction :
    fraction.Steady .betweenWords :=
  (steady_one _).sequence steady_digits

theorem steady_exponent :
    exponent.Steady .betweenWords := by
  let mark := one fun letter => letter == 'e' || letter == 'E'
  let sign := one fun sign => sign == '+' || sign == '-'
  have behindMark : (sign ++ run isDecimalDigit <|> run isDecimalDigit).Steady .betweenWords := by
    refine Steady.choice ((steady_one _).sequence steady_digits) steady_digits
      ((opens_one _).sequence _) (opens_run _) ?_
    intro digit isDigit
    by_contra isSign
    simp only [Bool.not_eq_false, Bool.or_eq_true, beq_iff_eq] at isSign
    rcases isSign with rfl | rfl
    · simp [isDecimalDigit] at isDigit
    · simp [isDecimalDigit] at isDigit
  -- Both alternatives start with the mark, so they are told apart behind it.
  have markSteady : mark.Steady .betweenWords := steady_one _
  refine Steady.of_same (markSteady.sequence behindMark) ?_
  intro before text
  rw [exponent, extent?_choice, extent?_sequence_assoc, ← extent?_choice,
    extent?_sequence_choice]

/-- The part in front of the point starts with a digit; a sign is not part of it. -/
theorem opens_wholePart :
    wholePart.Opens Char.isDigit := by
  refine ((opens_one _).choice ((opens_one _).sequence _)).of_imp ?_
  intro digit isLead
  simp only [Bool.or_eq_true, beq_iff_eq, Bool.and_eq_true] at isLead
  rcases isLead with rfl | ⟨-, isDigit⟩
  · rfl
  · exact isDigit

/-- Numbers of JSON last when an excerpt that is cut between words becomes the line. -/
theorem robust_jsonNumber :
    jsonNumber.Robust .betweenWords := by
  have opens : jsonNumber.body.Opens fun first => first == '-' || first.isDigit :=
    ((((opens_one _).sequence _).sequence _).choice opens_wholePart.boundary_sequence).sequence _
  refine robust_of_body rfl rfl (Steady.sequence_lasting ?head ?tail) opens
  case head =>
    refine Steady.choice (((steady_one _).sequence steady_boundary).sequence steady_wholePart)
      (steady_boundary.sequence steady_wholePart)
      (((opens_one _).sequence _).sequence _) opens_wholePart.boundary_sequence ?_
    intro digit isDigit
    by_contra isSign
    rw [Bool.not_eq_false, beq_iff_eq] at isSign
    rw [isSign] at isDigit
    cases isDigit
  case tail =>
    exact ((steady_fraction.sequence steady_exponent).sequence steady_boundary).lasting.choice
      ((steady_fraction.sequence steady_boundary).lasting.choice
        ((steady_exponent.sequence steady_boundary).lasting.choice steady_boundary.lasting))

/-- The claims of numbers of JSON start and end between words, but for a sign in front. -/
theorem cuts_jsonNumber :
    jsonNumber.Cuts .betweenWords := by
  refine cuts_betweenWords (StartsClean.sequence ?starts _) (EndsClean.sequence _ ?ends)
  case starts =>
    refine StartsClean.choice ((((opens_one _).sequence _).sequence _).startsClean ?_)
      (startsClean_boundary.sequence _)
    intro character isSign
    rw [beq_iff_eq.mp isSign]
    decide
  case ends =>
    exact (endsClean_boundary.sequence _).choice ((endsClean_boundary.sequence _).choice
      ((endsClean_boundary.sequence _).choice endsClean_boundary))

/-! ## Languages -/

/--
Rules each of which may be run on the excerpts that the claims of it and of those
behind it leave.
-/
inductive Settled : List Rule → Prop where
  | nil :
      Settled []
  | cons
      {rule : Rule}
      {later : List Rule}
      {cutting : Cutting} :
      rule.Robust cutting →
      (∀ other ∈ rule :: later, other.Cuts cutting) →
      Settled later →
      Settled (rule :: later)

/-- A rule that bears any cut may run ahead of rules that are settled. -/
theorem Settled.anywhere
    {rule : Rule}
    {later : List Rule}
    (settled : Settled later)
    (robust : rule.Robust .anywhere) :
    Settled (rule :: later) :=
  .cons robust (fun other _ => other.cuts_anywhere) settled

/-- Every match of a settled rule claims something. -/
theorem Settled.body_pos
    {rules : List Rule}
    (settled : Settled rules)
    {rule : Rule}
    (member : rule ∈ rules)
    {before : Option Char}
    {text : Text}
    {found : Match}
    (isMatch : rule.matchAt? before text = some found) :
    0 < found.body := by
  induction settled with
  | nil =>
      cases member
  | cons robust _ _ inductionHypothesis =>
      rcases List.mem_cons.mp member with rfl | isLater
      · exact robust.nonempty isMatch
      · exact inductionHypothesis isLater

/-- Rules that all bear cuts between words, and make no others, are settled in any order. -/
theorem Settled.of_words
    {rules : List Rule}
    (whole : ∀ rule ∈ rules, rule.Robust .betweenWords ∧ rule.Cuts .betweenWords) :
    Settled rules := by
  induction rules with
  | nil =>
      exact .nil
  | cons rule later inductionHypothesis =>
      refine .cons (whole rule List.mem_cons_self).1 (fun other member => (whole other member).2)
        (inductionHypothesis ?_)
      intro other member
      exact whole other (List.mem_cons_of_mem rule member)

/-- The rules of the shell stand in an order that is settled. -/
theorem settled_bash :
    Settled bash := by
  refine .anywhere (.anywhere (.anywhere (.anywhere (.anywhere (.of_words ?_)
    robust_flag) robust_shellVariable) robust_string) robust_placeholder) robust_comment
  intro rule member
  simp only [List.mem_cons, List.not_mem_nil, or_false] at member
  rcases member with rfl | rfl | rfl
  · exact ⟨robust_words _ (by decide), cuts_words _ _⟩
  · exact ⟨robust_shellNumber, cuts_shellNumber⟩
  · exact ⟨robust_shellOperator, cuts_shellOperator⟩

/-- The rules of Python stand in an order that is settled. -/
theorem settled_python :
    Settled python := by
  refine .anywhere (.anywhere (.of_words ?_) robust_string) robust_comment
  intro rule member
  simp only [List.mem_cons, List.not_mem_nil, or_false] at member
  rcases member with rfl | rfl | rfl | rfl
  · exact ⟨robust_words _ (by decide), cuts_words _ _⟩
  · exact ⟨robust_function, cuts_function⟩
  · exact ⟨robust_decorator, cuts_decorator⟩
  · exact ⟨robust_pythonNumber, cuts_pythonNumber⟩

/-- The rules of JSON stand in an order that is settled. -/
theorem settled_json :
    Settled json := by
  refine .anywhere (.anywhere (.of_words ?_) robust_string) robust_jsonKey
  intro rule member
  simp only [List.mem_cons, List.not_mem_nil, or_false] at member
  rcases member with rfl | rfl | rfl
  · exact ⟨robust_jsonNumber, cuts_jsonNumber⟩
  · exact ⟨robust_words _ (by decide), cuts_words _ _⟩
  · exact ⟨robust_words _ (by decide), cuts_words _ _⟩

/-- The rules of every language. -/
theorem settled_rules
    (language : Language) :
    Settled language.rules := by
  cases language with
  | bash =>
      exact settled_bash
  | python =>
      exact settled_python
  | json =>
      exact settled_json
  | plain =>
      exact .nil

end Rule

end Guidebook
