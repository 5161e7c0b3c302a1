import Guidebook.Proofs.Code.Classification
import Guidebook.Proofs.Code.Quotations

namespace Guidebook

/-!
# What strings and comments freeze

What a rule claims as a whole keeps apart what stands before and behind it: both are
divided as if they were lines of their own.  That is so for the rule itself if its
matches do not depend on the character before them, and for rules in front of it that
pass over the claimed part and what stands before it.
-/

/-! ## Rules that do not look back -/

namespace Pattern

/-- The pattern fits in the same way whatever character stands before. -/
def IgnoresBefore (pattern : Pattern) : Prop :=
  ∀ before other text, pattern.extent? before text = pattern.extent? other text

variable
    {first second : Pattern}

/-- A single character fits or not whatever stands before it. -/
theorem ignoresBefore_one
    (accepts : Char → Bool) :
    (one accepts).IgnoresBefore :=
  fun _ _ _ => rfl

theorem ignoresBefore_run
    (accepts : Char → Bool) :
    (run accepts).IgnoresBefore :=
  fun _ _ _ => rfl

theorem ignoresBefore_any
    (accepts : Char → Bool) :
    (any accepts).IgnoresBefore :=
  fun _ _ _ => rfl

/-- A quoted text ends where it does whatever stands before it. -/
theorem ignoresBefore_quoted
    (quote : Char) :
    (quoted quote).IgnoresBefore :=
  fun _ _ _ => rfl

/-- In a sequence the second pattern only sees what the first one takes. -/
theorem IgnoresBefore.sequence
    (firstIgnores : first.IgnoresBefore)
    (secondIgnores : second.IgnoresBefore) :
    (first ++ second).IgnoresBefore := by
  intro before other text
  rw [extent?_sequence, extent?_sequence, firstIgnores before other]
  congr 1
  funext extent
  rw [secondIgnores (characterBefore before text extent) (characterBefore other text extent)]

/-- A choice goes by its patterns alone. -/
theorem IgnoresBefore.choice
    (firstIgnores : first.IgnoresBefore)
    (secondIgnores : second.IgnoresBefore) :
    (first <|> second).IgnoresBefore := by
  intro before other text
  rw [extent?_choice, extent?_choice, firstIgnores before other, secondIgnores before other]

end Pattern

namespace Rule

open Pattern

/-- A rule that claims something wherever it matches, and to which the character before is all one. -/
structure Forgetful (rule : Rule) : Prop where
  sameMatch (before other : Option Char) (text : Text) :
    rule.matchAt? before text = rule.matchAt? other text
  nonempty {before : Option Char} {text : Text} {found : Match} :
    rule.matchAt? before text = some found → 0 < found.body

/-- A rule without contexts, whose body takes something, goes by the body alone. -/
theorem forgetful_of_body
    {rule : Rule}
    {accepts : Char → Bool}
    (noLead : rule.lead = none)
    (noTrail : rule.trail = none)
    (ignores : rule.body.IgnoresBefore)
    (opens : rule.body.Opens accepts) :
    rule.Forgetful where
  sameMatch before other text := by
    simp only [matchAt?, noLead, noTrail, contextExtent?]
    rw [Option.bind_eq_bind, Option.bind_some, Option.bind_some, characterBefore, characterBefore,
      ignores before other]
  nonempty := body_pos opens

/-- Comments are found whatever stands before them. -/
theorem forgetful_comment :
    comment.Forgetful :=
  forgetful_of_body rfl rfl ((ignoresBefore_one _).sequence (ignoresBefore_any _))
    ((opens_one _).sequence _)

theorem forgetful_placeholder :
    placeholder.Forgetful :=
  forgetful_of_body rfl rfl
    (((ignoresBefore_one _).sequence (ignoresBefore_run _)).sequence (ignoresBefore_one _))
    (((opens_one _).sequence _).sequence _)

theorem forgetful_string :
    string.Forgetful :=
  forgetful_of_body rfl rfl ((ignoresBefore_quoted _).choice (ignoresBefore_quoted _)) opens_string

/-! ## Cuts of what is frozen -/

variable
    {rule : Rule}
    {later : List Rule}
    {gap : Text → List Fragment}

/-- A forgetful rule cuts a text in the same way whatever stands before it. -/
theorem Forgetful.cutFrom_eq
    (forgetful : rule.Forgetful)
    (passed : Text)
    (before other : Option Char)
    (text : Text) :
    rule.cutFrom gap passed before text = rule.cutFrom gap passed other text := by
  cases isMatch : rule.matchAt? before text with
  | none =>
      cases text with
      | nil =>
          rw [cutFrom_nil, cutFrom_nil]
      | cons character rest =>
          have noMatch := forgetful.sameMatch before other _ ▸ isMatch
          rw [cutFrom_of_none isMatch, cutFrom_of_none noMatch]
  | some found =>
      have isOther := forgetful.sameMatch before other _ ▸ isMatch
      have sameBehind :
          characterBefore before text found.extent = characterBefore other text found.extent := by
        obtain ⟨extent, isExtent⟩ :=
          Nat.exists_eq_add_one_of_ne_zero (Nat.ne_of_gt (extent_pos_of_matchAt? isMatch))
        rw [isExtent]
        rfl
      rw [cutFrom_of_some isMatch, cutFrom_of_some isOther, sameBehind]

/-- Cutting with a forgetful rule may start behind anything. -/
theorem Forgetful.divide_eq
    (forgetful : rule.Forgetful)
    (text : Text)
    (before : Option Char) :
    rule.cutFrom (divide later) [] before text = divide (rule :: later) text := by
  rw [divide, cut_eq_cutFrom forgetful.nonempty, forgetful.cutFrom_eq [] none before]

/-- What every gap makes of its front stays in front of the whole cut. -/
theorem cutFrom_append_passed
    {front : Text}
    {fragments : List Fragment}
    (splits : ∀ text, gap (front ++ text) = fragments ++ gap text)
    (passed : Text)
    (before : Option Char)
    (text : Text) :
    rule.cutFrom gap (front ++ passed) before text =
      fragments ++ rule.cutFrom gap passed before text := by
  fun_induction cutFrom rule gap passed before text with
  | case1 passed before =>
      rw [cutFrom_nil, splits]
  | case2 passed before character rest noMatch inductionHypothesis =>
      rw [cutFrom_of_none noMatch, List.append_assoc, inductionHypothesis]
  | case3 passed before character rest found isMatch text inductionHypothesis =>
      rw [cutFrom_of_some isMatch, List.append_assoc front, splits, List.append_assoc]

/-- The rule matches at none of these characters, whatever stands around them. -/
def Spares (rule : Rule) (part : Text) : Prop :=
  ∀ character ∈ part, ∀ before rest, rule.matchAt? before (character :: rest) = none

/-- A rule that matches nowhere in a part leaves it to the rules behind it. -/
theorem divide_of_spares
    (forgetful : rule.Forgetful)
    {part : Text}
    (spares : rule.Spares part) :
    divide (rule :: later) part = divide later part := by
  have passes := passes_of_forall spares []
  rw [← forgetful.divide_eq part none, ← List.append_nil part, passes.cutFrom_append, cutFrom_nil]
  simp

/-- Rules that divide a line with a fragment in it as they divide what is before and behind it. -/
def Freeze (rules : List Rule) (front : Text) (fragment : Fragment) (behind : Text) : Prop :=
  divide rules (front ++ (fragment.text ++ behind)) =
    divide rules front ++ fragment :: divide rules behind

/-- The rule that takes a part freezes it. -/
theorem freeze_of_takes
    (forgetful : rule.Forgetful)
    {front part behind : Text}
    (spares : rule.Spares front)
    (takes : rule.Takes part behind) :
    Freeze (rule :: later) front (Fragment.classified rule.kind part) behind := by
  have passes := passes_of_forall spares (part ++ behind)
  show divide (rule :: later) (front ++ (part ++ behind)) = _
  rw [← forgetful.divide_eq _ none, passes.cutFrom_append, takes.cutFrom_eq,
    forgetful.divide_eq, divide_of_spares forgetful spares]
  rfl

/-- A rule that spares a part and what is before it leaves the part frozen. -/
theorem freeze_of_spares
    (forgetful : rule.Forgetful)
    {front : Text}
    {fragment : Fragment}
    (spares : rule.Spares (front ++ fragment.text))
    (freeze : ∀ behind, Freeze later front fragment behind)
    (behind : Text) :
    Freeze (rule :: later) front fragment behind := by
  have splits
      (text : Text) :
      divide later (front ++ fragment.text ++ text) =
        (divide later front ++ [fragment]) ++ divide later text := by
    rw [List.append_assoc, freeze text, List.append_assoc]
    rfl
  have sparesFront : rule.Spares front :=
    fun character member => spares character (List.mem_append_left _ member)
  have passes := passes_of_forall spares behind
  rw [Freeze, ← List.append_assoc, ← forgetful.divide_eq _ none, passes.cutFrom_append,
    List.nil_append, ← List.append_nil (front ++ fragment.text), cutFrom_append_passed splits,
    forgetful.divide_eq, divide_of_spares forgetful sparesFront, List.append_assoc]
  rfl

/-! ## Comments and strings -/

/-- Without a number sign there is no comment. -/
theorem spares_comment
    {part : Text}
    (noSign : '#' ∉ part) :
    comment.Spares part := by
  intro character member before rest
  have opens : comment.body.Opens (· == '#') :=
    (opens_one _).sequence _
  exact matchAt?_eq_none_of_opens rfl opens
    (beq_false_of_ne (ne_of_mem_of_not_mem member noSign)) before rest

/-- Without an opening bracket there is no placeholder. -/
theorem spares_placeholder
    {part : Text}
    (noBracket : '<' ∉ part) :
    placeholder.Spares part := by
  intro character member before rest
  have opens : placeholder.body.Opens (· == '<') :=
    ((opens_one _).sequence _).sequence _
  exact matchAt?_eq_none_of_opens rfl opens
    (beq_false_of_ne (ne_of_mem_of_not_mem member noBracket)) before rest

/-- Without quotes there is no string. -/
theorem spares_string
    {part : Text}
    (noDouble : '"' ∉ part)
    (noSingle : '\'' ∉ part) :
    string.Spares part :=
  fun _ member => matchAt?_string_of_ne (ne_of_mem_of_not_mem member noDouble)
    (ne_of_mem_of_not_mem member noSingle)

/-- The rule for comments takes a number sign and all that is behind it in the line. -/
theorem takes_comment
    {rest : Text}
    (oneLine : '\n' ∉ rest) :
    comment.Takes ('#' :: rest) [] := by
  have isRest : runExtent (· != '\n') rest = rest.length := by
    refine List.findIdx_eq_length.mpr ?_
    intro character member
    simpa using ne_of_mem_of_not_mem member oneLine
  refine takes_of_body rfl rfl (List.cons_ne_nil _ _) ?_
  intro before
  rw [List.append_nil, List.length_cons, Nat.add_comm]
  exact extent?_sequence_eq_some_iff.mpr ⟨1, rest.length, rfl, congrArg some isRest, rfl⟩

end Rule

namespace Language

open Rule

/--
A comment freezes the rest of its line and nothing else: what stands before it is
classified as if the line ended there.
-/
theorem highlightLine_append_comment
    {language : Language}
    (hasComments : language = bash ∨ language = python)
    {front rest : Text}
    (noSign : '#' ∉ front)
    (oneLine : '\n' ∉ rest) :
    language.highlightLine (front ++ '#' :: rest) =
      language.highlightLine front ++ [Fragment.classified .comment ('#' :: rest)] := by
  obtain ⟨later, isRules⟩ : ∃ later, language.rules = comment :: later := by
    rcases hasComments with rfl | rfl
    · exact ⟨_, rfl⟩
    · exact ⟨_, rfl⟩
  have freeze : Freeze (comment :: later) front (Fragment.classified .comment ('#' :: rest)) [] :=
    freeze_of_takes forgetful_comment (spares_comment noSign) (takes_comment oneLine)
  rw [Freeze, divide_nil] at freeze
  rw [highlightLine, highlightLine, classify_eq_divide, classify_eq_divide, isRules, ← freeze]
  exact congrArg (divide _ <| front ++ ·) (List.append_nil _).symm

/-- A quote that is left open before a comment is not closed in it. -/
theorem highlightLine_append_comment_quote :
    (bash = bash ∨ bash = python) ∧ '#' ∉ ['l', 's', ' ', '"', '<'] ∧ '\n' ∉ ['"', '>', '#'] ∧
      bash.highlightLine (['l', 's', ' ', '"', '<'] ++ '#' :: ['"', '>', '#']) =
        bash.highlightLine ['l', 's', ' ', '"', '<'] ++
          [Fragment.classified .comment ('#' :: ['"', '>', '#'])] := by
  have noSign : '#' ∉ ['l', 's', ' ', '"', '<'] := by
    decide
  have oneLine : '\n' ∉ ['"', '>', '#'] := by
    decide
  exact ⟨.inl rfl, noSign, oneLine, highlightLine_append_comment (.inl rfl) noSign oneLine⟩

/--
A string literal freezes its content and keeps apart what is around it: the part before
it and the part behind it are classified as lines of their own.
-/
theorem highlightLine_append_string
    {language : Language}
    (hasStrings : language = bash ∨ language = python)
    {front literal : Text}
    (noDouble : '"' ∉ front)
    (noSingle : '\'' ∉ front)
    (isLiteral : Expression.string.Describes literal)
    (noSign : '#' ∉ front ++ literal)
    (noBracket : language = bash → '<' ∉ front ++ literal)
    (behind : Text) :
    language.highlightLine (front ++ literal ++ behind) =
      language.highlightLine front ++ [Fragment.classified .string literal] ++
        language.highlightLine behind := by
  have freezeString
      (later : List Rule)
      (behind : Text) :
      Freeze (string :: later) front (Fragment.classified .string literal) behind :=
    freeze_of_takes forgetful_string (spares_string noDouble noSingle)
      (takes_string_of_describes isLiteral behind)
  have freezeComment
      {later : List Rule}
      (freeze : ∀ behind, Freeze later front (Fragment.classified .string literal) behind) :
      Freeze (comment :: later) front (Fragment.classified .string literal) behind :=
    freeze_of_spares forgetful_comment (spares_comment noSign) freeze behind
  have freeze : Freeze language.rules front (Fragment.classified .string literal) behind := by
    rcases hasStrings with rfl | rfl
    · exact freezeComment (freeze_of_spares forgetful_placeholder
        (spares_placeholder (noBracket rfl)) (freezeString _))
    · exact freezeComment (freezeString _)
  rw [highlightLine, highlightLine, highlightLine, classify_eq_divide, classify_eq_divide,
    classify_eq_divide, List.append_assoc, List.append_assoc]
  exact freeze

/-- A quote that is freed inside a string, and quotes, a placeholder and a comment behind it. -/
theorem highlightLine_append_string_escape :
    let front : Text := ['c', 'd', ' ']
    let literal : Text := ['"', '\\', '"', ' ', 'i', 'f', '"']
    let behind : Text := ['\'', '<', 'a', '>', '"', '#', '\'']
    (bash = bash ∨ bash = python) ∧ '"' ∉ front ∧ '\'' ∉ front ∧
      Expression.string.Describes literal ∧ '#' ∉ front ++ literal ∧
      (bash = bash → '<' ∉ front ++ literal) ∧
      bash.highlightLine (front ++ literal ++ behind) =
        bash.highlightLine front ++ [Fragment.classified .string literal] ++
          bash.highlightLine behind := by
  intro front literal behind
  have noDouble : '"' ∉ front := by
    decide
  have noSingle : '\'' ∉ front := by
    decide
  have fits : string.body.extent? none literal = some literal.length := by
    rfl
  have isLiteral : Expression.string.Describes literal :=
    covers_string fits
  have noSign : '#' ∉ front ++ literal := by
    decide
  have noBracket : bash = bash → '<' ∉ front ++ literal := by
    decide
  exact ⟨.inl rfl, noDouble, noSingle, isLiteral, noSign, noBracket,
    highlightLine_append_string (.inl rfl) noDouble noSingle isLiteral noSign noBracket behind⟩

end Language

end Guidebook
