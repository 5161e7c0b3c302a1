import Guidebook.Text.Basic

namespace Guidebook.Typst

/-!
# Text in Typst markup

Text reaches the markup in two ways: as markup in which every sign with a
meaning stands behind a backslash, or as a string literal between quotes.
-/

/-- Whether a character means something in markup. -/
def isMarkup (character : Char) : Bool :=
  ['#', '*', '_', '@', '$', '\\', '\x60', '<', '>', '[', ']', '~', '=', '+', '-', '/'].contains
    character

/-- A character as markup that shows it. -/
def escapeCharacter (character : Char) : Text :=
  if isMarkup character then ['\\', character] else [character]

/-- A text as markup that shows it. -/
def escape (text : Text) : Text :=
  text.flatMap escapeCharacter

/-- A character within a string literal. -/
def quoteCharacter (character : Char) : Text :=
  if character = '"' then ['\\', '"']
  else if character = '\\' then ['\\', '\\']
  else if character = '\t' then ['\\', 't']
  else [character]

/-- A text as a string literal. -/
def quote (text : Text) : Text :=
  '"' :: text.flatMap quoteCharacter ++ ['"']

/-- A colour as an expression. -/
def rgb (color : String) : Text :=
  "rgb(".toList ++ quote color.toList ++ [')']

end Guidebook.Typst
