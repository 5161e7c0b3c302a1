import Guidebook.Text.Basic
import Guidebook.Text.Word

namespace Guidebook

/-!
# Patterns

Patterns of the texts that rules look for.  A pattern takes as much as it can
and never gives any of it back; of two alternatives the first that fits is
taken for good.  Where a pattern fits at all, it fits in exactly one extent.
-/

/-- A pattern of a text. -/
inductive Pattern where
  /-- One character of a class. -/
  | one (accepts : Char → Bool)
  /-- All characters of a class up to the next other one, and at least one of them. -/
  | run (accepts : Char → Bool)
  /-- A run that has at most so many characters. -/
  | shortRun (accepts : Char → Bool) (most : Nat)
  /-- All characters of a class up to the next other one, if any. -/
  | any (accepts : Char → Bool)
  /-- A text between two equal quotes, in which a backslash frees any character but a line end. -/
  | quoted (quote : Char)
  /-- One of some words, up to where the word ends. -/
  | word (choices : List String)
  /-- No text, at a place where a word starts or ends. -/
  | boundary
  /-- One pattern after the other. -/
  | sequence (first second : Pattern)
  /-- The first pattern or, where it does not fit, the second. -/
  | choice (first second : Pattern)

/-- The length of quoted content and its closing quote. -/
def quotedExtent? (quote : Char) : Text → Option Nat
  | [] => none
  | '\\' :: '\n' :: _ => none
  | '\\' :: _ :: rest => (quotedExtent? quote rest).map (· + 2)
  | character :: rest =>
      if character = quote then some 1
      else if character = '\\' then none
      else (quotedExtent? quote rest).map (· + 1)

/-- The length of the run of characters of a class that a text starts with. -/
def runExtent (accepts : Char → Bool) (text : Text) : Nat :=
  text.findIdx (!accepts ·)

/-- Whether a word starts or ends between a character and a text. -/
def isWordBoundary (before : Option Char) (text : Text) : Bool :=
  before.any isWordCharacter != text.head?.any isWordCharacter

/-- The character right before a place in a text that itself follows some character. -/
def characterBefore (before : Option Char) (text : Text) : Nat → Option Char
  | 0 => before
  | place + 1 => text[place]?

namespace Pattern

instance : Append Pattern where
  append := sequence

instance : OrElse Pattern where
  orElse first second := choice first (second ())

/-- One given character. -/
def character (expected : Char) : Pattern :=
  one (· == expected)

/-- The number of characters that a pattern takes off a text, when it fits there. -/
def extent? : Pattern → Option Char → Text → Option Nat
  | one accepts, _, text =>
      match text with
      | [] => none
      | first :: _ => if accepts first then some 1 else none
  | run accepts, _, text =>
      let extent := runExtent accepts text
      if extent = 0 then none else some extent
  | shortRun accepts most, _, text =>
      let extent := runExtent accepts text
      if extent = 0 ∨ most < extent then none else some extent
  | any accepts, _, text => some (runExtent accepts text)
  | quoted quote, _, text =>
      match text with
      | [] => none
      | first :: rest => if first = quote then (quotedExtent? quote rest).map (· + 1) else none
  | word choices, _, text =>
      let extent := runExtent isWordCharacter text
      if choices.contains (String.ofList (text.take extent)) then some extent else none
  | boundary, before, text => if isWordBoundary before text then some 0 else none
  | sequence first second, before, text =>
      match first.extent? before text with
      | none => none
      | some extent =>
          (second.extent? (characterBefore before text extent) (text.drop extent)).map
            (extent + ·)
  | choice first second, before, text =>
      match first.extent? before text with
      | none => second.extent? before text
      | some extent => some extent

end Pattern

end Guidebook
