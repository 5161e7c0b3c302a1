import Guidebook.Proofs.Code.Quotations

namespace Guidebook

/-!
# What the rules of a language claim

For each kind of token that a language knows there is an expression for the texts
that are claimed for it.  The ends of words and the contexts that a rule looks for are
no part of what it claims, so they are no part of its expression either.
-/

namespace Expression

/-- A comment. -/
def comment : Expression :=
  character '#' ++ star (one (· != '\n'))

/-- A text between angle brackets. -/
def placeholder : Expression :=
  character '<' ++ plus (one (· != '>')) ++ character '>'

/-- A name of the characters of words. -/
def identifier : Expression :=
  plus (one isWordCharacter)

/-- A shell variable, in braces or not. -/
def shellVariable : Expression :=
  (character '$' ++ identifier) <|>
    (character '$' ++ character '\x7b' ++ identifier ++ character '\x7d')

/-- An option of a command: one hyphen or two, and its name. -/
def flag : Expression :=
  character '-' ++ (optional (character '-') ++ plus (one Rule.isFlagCharacter))

/-- One digit or more. -/
def digits : Expression :=
  plus (one isDecimalDigit)

/-- Up to three digits. -/
def shortDigits : Expression :=
  one isDecimalDigit ++ upTo (one isDecimalDigit) 2

/-- Four short runs of digits with full stops between them. -/
def dottedNumber : Expression :=
  let stop := character '.'
  shortDigits ++ stop ++ shortDigits ++ stop ++ shortDigits ++ stop ++ shortDigits

/-- A network address or digits. -/
def shellNumber : Expression :=
  dottedNumber <|> digits

/-- Signs that join commands and send their output on. -/
def shellOperator : Expression :=
  plus (one fun character => character == '|' || character == '&' || character == '>')

/-- A name behind an at sign. -/
def decorator : Expression :=
  character '@' ++ identifier

/-- A single zero, or digits that do not start with zero. -/
def wholePart : Expression :=
  character '0' <|>
    (one (fun digit => digit != '0' && digit.isDigit) ++ star (one isDecimalDigit))

/-- A full stop and digits. -/
def fraction : Expression :=
  character '.' ++ digits

/-- A power of ten. -/
def exponent : Expression :=
  one (fun letter => letter == 'e' || letter == 'E') ++
    (optional (one fun sign => sign == '+' || sign == '-') ++ digits)

/-- A number with or without a sign, a fraction and an exponent. -/
def jsonNumber : Expression :=
  (optional (character '-') ++ wholePart) ++ (optional fraction ++ optional exponent)

end Expression

open Expression

/-- The texts that a language claims for a kind of token, if it knows that kind. -/
def Language.claimedPart? : Language → TokenKind → Option Expression
  | .bash, .comment => some comment
  | .bash, .placeholder => some placeholder
  | .bash, .string => some string
  | .bash, .variable => some shellVariable
  | .bash, .flag => some flag
  | .bash, .keyword => some (words ["nmap", "sudo", "locate", "grep", "ftp", "ssh", "telnet",
      "smb", "cat", "ls", "cd", "echo", "for", "if", "then", "else", "fi", "do", "done", "while"])
  | .bash, .number => some shellNumber
  | .bash, .operator => some shellOperator
  | .python, .comment => some comment
  | .python, .string => some string
  | .python, .keyword => some (words ["import", "from", "def", "class", "if", "else", "elif",
      "for", "while", "return", "True", "False", "None", "and", "or", "not", "in", "is", "try",
      "except", "finally", "with", "as", "assert", "async", "await"])
  | .python, .function => some identifier
  | .python, .decorator => some decorator
  | .python, .number => some digits
  | .json, .key => some (quotation '"')
  | .json, .string => some string
  | .json, .number => some jsonNumber
  | .json, .boolean => some (words ["true", "false"])
  | .json, .null => some (words ["null"])
  | _, _ => none

namespace Rule

open Pattern

/-- What is claimed as a comment starts with its sign and ends with the line. -/
theorem covers_comment :
    Expression.comment.Covers comment.body :=
  covers_sequence (covers_character '#') (covers_any _)

/-- What is claimed as a placeholder stands between angle brackets. -/
theorem covers_placeholder :
    Expression.placeholder.Covers placeholder.body :=
  covers_sequence (covers_sequence (covers_character '<') (covers_run _)) (covers_character '>')

/-- What is claimed as a variable is a word behind a dollar sign, in braces or not. -/
theorem covers_shellVariable :
    Expression.shellVariable.Covers shellVariable.body :=
  covers_choice
    (covers_sequence (covers_character '$') (covers_run isWordCharacter))
    (covers_sequence
      (covers_sequence (covers_sequence (covers_character '$') (covers_character '\x7b'))
        (covers_run isWordCharacter))
      (covers_character '\x7d'))

/--
What is claimed as an option is one hyphen or two with a name behind.  A second hyphen is
one of the characters that options are spelled with.
-/
theorem covers_flag :
    Expression.flag.Covers flag.body :=
  covers_sequence (covers_character '-')
    (covers_of_imp (covers_run isFlagCharacter) fun _ => Describes.optional_sequence)

/-- What is claimed as a word is one of the list. -/
theorem covers_words
    (kind : TokenKind)
    (choices : List String) :
    (Expression.words choices).Covers (words kind choices).body :=
  covers_sequence_boundary (covers_boundary_sequence (covers_word choices))

theorem covers_wholeNumber :
    digits.Covers wholeNumber :=
  covers_sequence_boundary (covers_boundary_sequence (covers_run isDecimalDigit))

/-- What is claimed as a dotted number is made of digits with full stops between them. -/
theorem covers_dottedNumber :
    Expression.dottedNumber.Covers dottedNumber := by
  have group : shortDigits.Covers (shortRun isDecimalDigit 3) :=
    covers_shortRun isDecimalDigit 2
  have stop : (Expression.character '.').Covers (character '.') :=
    covers_character '.'
  have one := covers_sequence (covers_boundary_sequence group) stop
  have two := covers_sequence (covers_sequence one group) stop
  have three := covers_sequence (covers_sequence two group) stop
  exact covers_sequence_boundary (covers_sequence three group)

/-- What the shell claims as a number is whole or dotted. -/
theorem covers_shellNumber :
    Expression.shellNumber.Covers shellNumber.body :=
  covers_choice covers_dottedNumber covers_wholeNumber

/-- What the shell claims as an operator is one of its signs. -/
theorem covers_shellOperator :
    Expression.shellOperator.Covers shellOperator.body :=
  covers_run _

/-- What is claimed as the name of a function is a word. -/
theorem covers_function :
    identifier.Covers function.body :=
  covers_boundary_sequence (covers_run isWordCharacter)

/-- What is claimed as a decorator is a word behind an at sign. -/
theorem covers_decorator :
    Expression.decorator.Covers decorator.body :=
  covers_sequence (covers_character '@') (covers_run isWordCharacter)

theorem covers_pythonNumber :
    digits.Covers pythonNumber.body :=
  covers_wholeNumber

/-- What is claimed as a key stands between double quotes. -/
theorem covers_jsonKey :
    (quotation '"').Covers jsonKey.body :=
  covers_quoted '"'

/-- The part of a number in front of the point is zero or starts with another digit. -/
theorem covers_wholePart :
    Expression.wholePart.Covers wholePart :=
  covers_choice (covers_character '0')
    (covers_sequence (covers_one _) (covers_any isDecimalDigit))

theorem covers_fraction :
    Expression.fraction.Covers fraction :=
  covers_sequence (covers_character '.') (covers_run isDecimalDigit)

/-- An exponent with a sign and one without are both exponents with a sign that may be left out. -/
theorem covers_exponent :
    Expression.exponent.Covers exponent := by
  have covers := covers_choice
    (covers_sequence
      (covers_sequence (covers_one fun letter => letter == 'e' || letter == 'E')
        (covers_one fun sign => sign == '+' || sign == '-'))
      (covers_run isDecimalDigit))
    (covers_sequence (covers_one fun letter => letter == 'e' || letter == 'E')
      (covers_run isDecimalDigit))
  refine covers_of_imp covers ?_
  rintro _ (⟨_, power, ⟨mark, sign, isMark, isSign, rfl⟩, isPower, rfl⟩ |
    ⟨mark, power, isMark, isPower, rfl⟩)
  · rw [List.append_assoc]
    exact isMark.sequence (Describes.sequence (.inl isSign) isPower)
  · exact isMark.sequence isPower.optional_sequence

/-- What is claimed as a number of JSON is one, with or without a fraction and an exponent. -/
theorem covers_jsonNumber :
    Expression.jsonNumber.Covers jsonNumber.body := by
  refine covers_sequence ?_ ?_
  · have covers := covers_choice
      (covers_sequence (covers_sequence_boundary (covers_character '-')) covers_wholePart)
      (covers_boundary_sequence covers_wholePart)
    refine covers_of_imp covers ?_
    rintro text (⟨sign, whole, isSign, isWhole, rfl⟩ | isWhole)
    · exact Describes.sequence (.inl isSign) isWhole
    · exact isWhole.optional_sequence
  · have covers := covers_choice
      (covers_sequence_boundary (covers_sequence covers_fraction covers_exponent))
      (covers_choice (covers_sequence_boundary covers_fraction)
        (covers_choice (covers_sequence_boundary covers_exponent) covers_boundary))
    refine covers_of_imp covers ?_
    rintro text (⟨front, back, isFraction, isExponent, rfl⟩ | isFraction | isExponent | rfl)
    · exact Describes.sequence (.inl isFraction) (.inl isExponent)
    · exact Describes.sequence_optional (.inl isFraction)
    · exact Describes.optional_sequence (.inl isExponent)
    · exact Describes.optional_sequence (describes_optional_nil _)

end Rule

namespace Language

/-- A rule of a language takes nothing but what is claimed for its kind. -/
def Vouches (language : Language) (rule : Rule) : Prop :=
  ∃ expression, language.claimedPart? rule.kind = some expression ∧ expression.Covers rule.body

/-- Every rule of a language takes nothing but what is claimed for its kind. -/
theorem vouches_of_mem_rules
    (language : Language) :
    ∀ rule ∈ language.rules, language.Vouches rule := by
  cases language with
  | bash =>
      simp only [rules, Rule.bash, List.forall_mem_cons]
      exact ⟨⟨_, rfl, Rule.covers_comment⟩, ⟨_, rfl, Rule.covers_placeholder⟩,
        ⟨_, rfl, Rule.covers_string⟩, ⟨_, rfl, Rule.covers_shellVariable⟩,
        ⟨_, rfl, Rule.covers_flag⟩, ⟨_, rfl, Rule.covers_words _ _⟩,
        ⟨_, rfl, Rule.covers_shellNumber⟩, ⟨_, rfl, Rule.covers_shellOperator⟩,
        List.forall_mem_nil _⟩
  | python =>
      simp only [rules, Rule.python, List.forall_mem_cons]
      exact ⟨⟨_, rfl, Rule.covers_comment⟩, ⟨_, rfl, Rule.covers_string⟩,
        ⟨_, rfl, Rule.covers_words _ _⟩, ⟨_, rfl, Rule.covers_function⟩,
        ⟨_, rfl, Rule.covers_decorator⟩, ⟨_, rfl, Rule.covers_pythonNumber⟩,
        List.forall_mem_nil _⟩
  | json =>
      simp only [rules, Rule.json, List.forall_mem_cons]
      exact ⟨⟨_, rfl, Rule.covers_jsonKey⟩, ⟨_, rfl, Rule.covers_string⟩,
        ⟨_, rfl, Rule.covers_jsonNumber⟩, ⟨_, rfl, Rule.covers_words _ _⟩,
        ⟨_, rfl, Rule.covers_words _ _⟩, List.forall_mem_nil _⟩
  | plain =>
      exact List.forall_mem_nil _

end Language

end Guidebook
