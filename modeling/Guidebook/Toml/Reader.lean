import Guidebook.Text.Basic

namespace Guidebook.Toml

/-!
# Reading TOML piece by piece

A reader takes a piece off the start of a text, or fails.  Readers of unbounded
pieces repeat a step, each time with less text ahead.
-/

/-- Takes a value off the start of a text. -/
abbrev Reader (α : Type) := Text → Option (α × Text)

/-- What one step of a repeated reader comes to. -/
inductive Step (σ α : Type) where
  | more (state : σ) (rest : Text)
  | done (value : α) (rest : Text)
  | fail

/-- Repeats a step at most so many times. -/
def repeatAtMost (step : σ → Text → Step σ α) : Nat → σ → Reader α
  | 0, _, _ => none
  | count + 1, state, text =>
      match step state text with
      | .more next rest => repeatAtMost step count next rest
      | .done value rest => some (value, rest)
      | .fail => none

/-- Repeats a step that takes at least one character until it is done. -/
def iterate (step : σ → Text → Step σ α) (state : σ) : Reader α := fun text =>
  repeatAtMost step (text.length + 1) state text

/-- Whether a character is a space or a tab. -/
def isSpace (character : Char) : Bool :=
  character == ' ' || character == '\t'

/-- Skips spaces and tabs. -/
def skipSpaces (text : Text) : Text :=
  text.dropWhile isSpace

/-- Whether a character may stand in a comment or in a string: any but control characters. -/
def isPrintable (character : Char) : Bool :=
  character == '\t' || 0x20 ≤ character.toNat && character.toNat != 0x7F

/-- Skips a comment, if there is one, up to the end of its line. -/
def skipComment (text : Text) : Text :=
  match text with
  | '#' :: rest => rest.dropWhile isPrintable
  | _ => text

/-- Takes the end of a line. -/
def lineEnd? (text : Text) : Option Text :=
  match text with
  | '\n' :: rest => some rest
  | '\r' :: '\n' :: rest => some rest
  | _ => none

/-- Skips spaces, comments and line ends. -/
def skipLines (inComment : Bool) : Text → Text
  | [] => []
  | '\n' :: rest => skipLines false rest
  | '\r' :: '\n' :: rest => skipLines false rest
  | character :: rest =>
      if inComment then
        if isPrintable character then skipLines true rest else character :: rest
      else if isSpace character then skipLines false rest
      else if character = '#' then skipLines true rest
      else character :: rest

end Guidebook.Toml
