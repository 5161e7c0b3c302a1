import Guidebook.Text.Basic

namespace Guidebook

/-!
# Tokens of code

A line of code is shown in fragments.  A fragment is either plain or of one of
the kinds that a theme gives a colour to.
-/

/-- What a fragment of code is. -/
inductive TokenKind where
  | comment
  | string
  | keyword
  | function
  | decorator
  | number
  | key
  | boolean
  | null
  | placeholder
  | variable
  | flag
  | operator
  deriving Repr, DecidableEq

namespace TokenKind

/-- All kinds of tokens. -/
def all : List TokenKind :=
  [.comment, .string, .keyword, .function, .decorator, .number, .key, .boolean, .null,
    .placeholder, .variable, .flag, .operator]

/-- The word that stands for a kind in data and in themes. -/
def name : TokenKind → String
  | .comment => "comment"
  | .string => "string"
  | .keyword => "keyword"
  | .function => "function"
  | .decorator => "decorator"
  | .number => "number"
  | .key => "key"
  | .boolean => "boolean"
  | .null => "null"
  | .placeholder => "placeholder"
  | .variable => "variable"
  | .flag => "flag"
  | .operator => "operator"

end TokenKind

/-- A part of a line of code, with its kind unless it is plain. -/
structure Fragment where
  kind : Option TokenKind
  text : Text
  deriving Repr, DecidableEq

namespace Fragment

/-- A plain fragment. -/
def plain (text : Text) : Fragment :=
  ⟨none, text⟩

/-- A fragment of a kind. -/
def classified (kind : TokenKind) (text : Text) : Fragment :=
  ⟨some kind, text⟩

end Fragment

end Guidebook
