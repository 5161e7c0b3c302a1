import Guidebook.Code.Ownership

namespace Guidebook

/-!
# Languages and their rules

Each language classifies its code by rules of its own, in the order given here.
-/

/-- The languages with rules of their own; plain text has none. -/
inductive Language where
  | bash
  | python
  | json
  | plain
  deriving Repr, DecidableEq

namespace Rule

open Pattern

/-- A comment runs from a number sign to the end of the line. -/
def comment : Rule where
  kind := .comment
  body := character '#' ++ any (· != '\n')

/-- A text in double or single quotes. -/
def string : Rule where
  kind := .string
  body := quoted '"' <|> quoted '\''

/-- Text between angle brackets, to be filled in by the reader. -/
def placeholder : Rule where
  kind := .placeholder
  body := character '<' ++ run (· != '>') ++ character '>'

/-- A shell variable, in braces or not. -/
def shellVariable : Rule where
  kind := .variable
  body := (character '$' ++ run isWordCharacter) <|>
    (character '$' ++ character '\x7b' ++ run isWordCharacter ++ character '\x7d')

/-- The characters that options of a command are spelled with. -/
def isFlagCharacter (character : Char) : Bool :=
  character.isAlphanum || character == '_' || character == '-'

/-- An option of a command, after a space. -/
def flag : Rule where
  kind := .flag
  lead := some (character ' ')
  body := character '-' ++ run isFlagCharacter

/-- Whole words of a list. -/
def words (kind : TokenKind) (choices : List String) : Rule where
  kind := kind
  body := boundary ++ word choices ++ boundary

/-- A word of digits only. -/
def wholeNumber : Pattern :=
  boundary ++ run isDecimalDigit ++ boundary

/-- Four short runs of digits with full stops between them. -/
def dottedNumber : Pattern :=
  let group := shortRun isDecimalDigit 3
  let stop := character '.'
  boundary ++ group ++ stop ++ group ++ stop ++ group ++ stop ++ group ++ boundary

/-- A network address or a word of digits. -/
def shellNumber : Rule where
  kind := .number
  body := dottedNumber <|> wholeNumber

/-- The signs that join commands and send their output on. -/
def shellOperator : Rule where
  kind := .operator
  body := run fun character => character == '|' || character == '&' || character == '>'

/-- A whole word in front of an opening parenthesis. -/
def function : Rule where
  kind := .function
  body := boundary ++ run isWordCharacter
  trail := some (any isBlank ++ character '(')

/-- A word behind an at sign. -/
def decorator : Rule where
  kind := .decorator
  body := character '@' ++ run isWordCharacter

/-- A word of digits only. -/
def pythonNumber : Rule where
  kind := .number
  body := wholeNumber

/-- A text in double quotes in front of a colon. -/
def jsonKey : Rule where
  kind := .key
  body := quoted '"'
  trail := some (any isBlank ++ character ':')

/-- The digits of a number: a single zero, or a run that does not start with zero. -/
def wholePart : Pattern :=
  character '0' <|>
    (one (fun digit => digit != '0' && digit.isDigit) ++ any isDecimalDigit)

/-- A full stop and digits. -/
def fraction : Pattern :=
  character '.' ++ run isDecimalDigit

/-- A power of ten. -/
def exponent : Pattern :=
  let mark := one fun letter => letter == 'e' || letter == 'E'
  let sign := one fun sign => sign == '+' || sign == '-'
  (mark ++ sign ++ run isDecimalDigit) <|> (mark ++ run isDecimalDigit)

/-- A number with as much of a fraction and an exponent as ends where its word ends. -/
def jsonNumber : Rule where
  kind := .number
  body :=
    ((character '-' ++ boundary ++ wholePart) <|> (boundary ++ wholePart)) ++
      ((fraction ++ exponent ++ boundary) <|> (fraction ++ boundary) <|>
        (exponent ++ boundary) <|> boundary)

/-- The rules of shell commands. -/
def bash : List Rule :=
  [comment, placeholder, string, shellVariable, flag,
    words .keyword ["nmap", "sudo", "locate", "grep", "ftp", "ssh", "telnet", "smb", "cat", "ls",
      "cd", "echo", "for", "if", "then", "else", "fi", "do", "done", "while"],
    shellNumber, shellOperator]

/-- The rules of Python code. -/
def python : List Rule :=
  [comment, string,
    words .keyword ["import", "from", "def", "class", "if", "else", "elif", "for", "while",
      "return", "True", "False", "None", "and", "or", "not", "in", "is", "try", "except",
      "finally", "with", "as", "assert", "async", "await"],
    function, decorator, pythonNumber]

/-- The rules of JSON data. -/
def json : List Rule :=
  [jsonKey, string, jsonNumber, words .boolean ["true", "false"], words .null ["null"]]

end Rule

namespace Language

/-- The rules of a language, in the order in which they claim text. -/
def rules : Language → List Rule
  | .bash => Rule.bash
  | .python => Rule.python
  | .json => Rule.json
  | .plain => []

/-- The word that stands for a language in data. -/
def name : Language → String
  | .bash => "bash"
  | .python => "python"
  | .json => "json"
  | .plain => "plain"

/-- The language that a tag means.  A tag that means no other is taken for shell commands. -/
def ofTag (tag : Text) : Language :=
  match String.ofList (tag.trim.map Char.toLower) with
  | "python" => .python
  | "py" => .python
  | "json" => .json
  | "text" => .plain
  | "txt" => .plain
  | "plain" => .plain
  | "plaintext" => .plain
  | _ => .bash

/-- The fragments of one line of code. -/
def highlightLine (language : Language) (line : Text) : List Fragment :=
  Rule.classify language.rules line

/-- The fragments of each line of some code. -/
def highlight (language : Language) (code : Text) : List (List Fragment) :=
  code.lines.map language.highlightLine

end Language

end Guidebook
