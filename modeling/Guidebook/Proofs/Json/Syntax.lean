import Guidebook.Text.Basic
import Mathlib.Data.List.Basic

namespace Guidebook

/-!
# JSON texts as they are written

A JSON text is a row of tokens with blanks between them, and its tokens without
the blanks make up a value.  Tokens carry their spelling, so that one value has
many texts.
-/

namespace Json

/-- One or more decimal digits. -/
def IsDigits (text : Text) : Prop :=
  text ≠ [] ∧ ∀ character ∈ text, character.isDigit

/-- The spelling of a number: its sign, its whole part, its fraction and its exponent. -/
structure Numeral where
  sign : Text
  whole : Text
  fraction : Text
  exponent : Text
  isSign : sign = [] ∨ sign = ['-']
  isWhole : whole = ['0'] ∨ (IsDigits whole ∧ whole.head? ≠ some '0')
  isFraction : fraction = [] ∨ ∃ digits, IsDigits digits ∧ fraction = '.' :: digits
  isExponent :
    exponent = [] ∨
      ∃ mark ∈ ['e', 'E'], ∃ sign ∈ [[], ['+'], ['-']], ∃ digits,
        IsDigits digits ∧ exponent = mark :: (sign ++ digits)

/-- A number as it is written. -/
def Numeral.source (numeral : Numeral) : Text :=
  numeral.sign ++ numeral.whole ++ numeral.fraction ++ numeral.exponent

/-- A hexadecimal digit. -/
def IsHexDigit (character : Char) : Prop :=
  character.isDigit ∨ character ∈ ['a', 'b', 'c', 'd', 'e', 'f', 'A', 'B', 'C', 'D', 'E', 'F']

/-- What a backslash may stand in front of, besides a code. -/
def escapeMarks : List Char :=
  ['"', '\\', '/', 'b', 'f', 'n', 'r', 't']

/-- A character of a string: as itself, behind a backslash, or by its code. -/
inductive StringPart where
  | plain
      (character : Char)
      (isPlain : 0x20 ≤ character.toNat ∧ character ≠ '"' ∧ character ≠ '\\')
  | escape
      (mark : Char)
      (isMark : mark ∈ escapeMarks)
  | code
      (digits : Text)
      (areDigits : digits.length = 4 ∧ ∀ digit ∈ digits, IsHexDigit digit)

/-- A character of a string as it is written. -/
def StringPart.source : StringPart → Text
  | .plain character _ => [character]
  | .escape mark _ => ['\\', mark]
  | .code digits _ => '\\' :: 'u' :: digits

/-- The content of a string, without the quotes around it. -/
abbrev Content := List StringPart

/-- The content of a string as it is written. -/
def Content.source (content : Content) : Text :=
  content.flatMap StringPart.source

theorem Content.source_cons
    (part : StringPart)
    (content : Content) :
    source (part :: content) = part.source ++ source content :=
  List.flatMap_cons

/-- The values that are written as a word. -/
inductive Word where
  | true
  | false
  | null

/-- A word as it is written. -/
def Word.source : Word → Text
  | .true => ['t', 'r', 'u', 'e']
  | .false => ['f', 'a', 'l', 's', 'e']
  | .null => ['n', 'u', 'l', 'l']

/-- A token, or a blank between tokens. -/
inductive Token where
  | openArray
  | closeArray
  | openObject
  | closeObject
  | comma
  | colon
  | blank
      (character : Char)
      (isBlank : character ∈ [' ', '\t', '\n', '\r'])
  | word (choice : Word)
  | number (numeral : Numeral)
  | string (content : Content)

namespace Token

/-- A token as it is written. -/
def source : Token → Text
  | .openArray => ['[']
  | .closeArray => [']']
  | .openObject => ['\x7b']
  | .closeObject => ['\x7d']
  | .comma => [',']
  | .colon => [':']
  | .blank character _ => [character]
  | .word choice => choice.source
  | .number numeral => numeral.source
  | .string content => '"' :: (content.source ++ ['"'])

/-- A string is its content between double quotes. -/
theorem source_string_append
    (content : Content)
    (behind : Text) :
    source (.string content) ++ behind = '"' :: (content.source ++ '"' :: behind) := by
  rw [source, List.cons_append, List.append_assoc, List.singleton_append]

/-- A string is longer than its content by its two quotes. -/
theorem length_source_string
    (content : Content) :
    List.length (source (.string content)) = List.length content.source + 1 + 1 := by
  rw [source, List.length_cons, List.length_append, List.length_singleton]

/-- Tokens as they are written, one behind the other. -/
def sources (tokens : List Token) : Text :=
  (tokens.map source).flatten

theorem sources_cons
    (token : Token)
    (tokens : List Token) :
    sources (token :: tokens) = token.source ++ sources tokens :=
  rfl

/-- Tokens behind others are spelled behind them. -/
theorem sources_append
    (first second : List Token) :
    sources (first ++ second) = sources first ++ sources second := by
  rw [sources, List.map_append, List.flatten_append]
  rfl

/-- Whether a token is a blank. -/
def isBlank : Token → Bool
  | .blank _ _ => Bool.true
  | _ => Bool.false

/-- The content of a token that is a string. -/
def content? : Token → Option Content
  | .string content => some content
  | _ => none

/-- The content of the first string among some tokens. -/
def nextContent? (tokens : List Token) : Option Content :=
  tokens.findSome? content?

end Token

mutual

/-- Tokens, without blanks, that make up a value. -/
inductive IsValue : List Token → Prop where
  | word
      (choice : Word) :
      IsValue [.word choice]
  | number
      (numeral : Numeral) :
      IsValue [.number numeral]
  | string
      (content : Content) :
      IsValue [.string content]
  | emptyArray :
      IsValue [.openArray, .closeArray]
  | array
      {items : List Token} :
      IsItems items →
      IsValue (.openArray :: items ++ [.closeArray])
  | emptyObject :
      IsValue [.openObject, .closeObject]
  | object
      {members : List Token} :
      IsMembers members →
      IsValue (.openObject :: members ++ [.closeObject])

/-- Tokens of one or more values with commas between them. -/
inductive IsItems : List Token → Prop where
  | last
      {value : List Token} :
      IsValue value →
      IsItems value
  | cons
      {value items : List Token} :
      IsValue value →
      IsItems items →
      IsItems (value ++ .comma :: items)

/-- Tokens of one or more named values with commas between them. -/
inductive IsMembers : List Token → Prop where
  | last
      (name : Content)
      {value : List Token} :
      IsValue value →
      IsMembers (.string name :: .colon :: value)
  | cons
      (name : Content)
      {value members : List Token} :
      IsValue value →
      IsMembers members →
      IsMembers (.string name :: .colon :: value ++ .comma :: members)

end

/-- Tokens that make up one value, with blanks anywhere between them and around. -/
def IsText (tokens : List Token) : Prop :=
  IsValue (tokens.filter (!·.isBlank))

end Json

end Guidebook
