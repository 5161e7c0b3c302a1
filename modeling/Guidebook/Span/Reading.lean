import Guidebook.Span.Basic
import Guidebook.Span.Source

namespace Guidebook

/-!
# Reading inline markup

A text is cut from left to right into literal characters and captured
stretches; what a stretch captured is then read in the same way, one level
deeper.  A closer that was once searched for in vain is not ahead of any later
place either, so it is not searched for again.
-/

/-- A literal character, or a stretch captured between delimiters. -/
inductive Piece where
  | literal (character : Char)
  | captured (capture : Capture)
  deriving Repr, DecidableEq

/--
The stretch captured at the start of a text and what follows it, when there is
one, and the closers known to be spent from here on.
-/
def Capture.next? (spent : List Closer) (text : Text) :
    Option (Capture × Text) × List Closer :=
  match Opener.at? text with
  | none => (none, spent)
  | some (opener, body) =>
      if spent.contains opener.closer then
        (none, spent)
      else
        match opener.close body with
        | .closed capture rest => (some (capture, rest), spent)
        | .declined => (none, spent)
        | .missing => (none, opener.closer :: spent)

/-- A captured stretch takes at least one character. -/
theorem Capture.next?_length_lt {spent left : List Closer} {text rest : Text}
    {capture : Capture} (found : next? spent text = (some (capture, rest), left)) :
    rest.length < text.length := by
  unfold next? at found
  split at found
  · simp at found
  · next opener body opened =>
      split at found
      · simp at found
      · split at found
        · next closed =>
            simp only [Prod.mk.injEq, Option.some.injEq] at found
            have shorter := Opener.at?_length_lt opened
            have bound := Opener.close_length_le closed
            rw [← found.1.2]
            omega
        · simp at found
        · simp at found

/-- Cuts a text into pieces, given the closers known to be spent. -/
def Piece.cut (spent : List Closer) : Text → List Piece
  | [] => []
  | character :: rest =>
      match _found : Capture.next? spent (character :: rest) with
      | (some (capture, after), left) => .captured capture :: cut left after
      | (none, left) => .literal character :: cut left rest
termination_by text => text.length
decreasing_by
  · exact Capture.next?_length_lt _found
  · simp

/-- A run of literal characters, or a finished span. -/
inductive Stretch where
  | literal (characters : Text)
  | formed (span : Span)
  deriving Repr

/-- Puts a literal character in front, joined to the literal run that follows it. -/
def Stretch.consLiteral (character : Char) : List Stretch → List Stretch
  | .literal characters :: rest => .literal (character :: characters) :: rest
  | rest => .literal [character] :: rest

/-- The span that a stretch stands for. -/
def Stretch.toSpan : Stretch → Span
  | .literal characters => .text (String.ofList characters)
  | .formed span => span

/-- Formats content, of which there must be some. -/
def Span.format? (format : List Span → Span) (content : List Span) : Option Span :=
  if content.isEmpty then none else some (format content)

/--
The span that a captured stretch stands for, when the inside is read as given.
Code and image labels stay as they are; emphasis of nothing is nothing.
-/
def Capture.span? (inside : Text → List Span) : Capture → Option Span
  | .image alt url => some (.image (String.ofList alt) (String.ofList url))
  | .link label url => some (.link (String.ofList url) (inside label))
  | .code content => if content.isEmpty then none else some (.code (String.ofList content))
  | .bold content => Span.format? .bold (inside content)
  | .italic content => Span.format? .italic (inside content)
  | .strikethrough content => Span.format? .strikethrough (inside content)

/-- Puts a piece in front of the stretches that follow it. -/
def Piece.join (inside : Text → List Span) (piece : Piece) (rest : List Stretch) :
    List Stretch :=
  match piece with
  | .literal character => Stretch.consLiteral character rest
  | .captured capture =>
      match capture.span? inside with
      | none => rest
      | some span => .formed span :: rest

namespace Span

/-- Formatting nests this deep; what lies deeper is literal text. -/
def maxNesting : Nat := 32

/-- A text without formatting, as spans. -/
def literal (characters : Text) : List Span :=
  if characters.isEmpty then [] else [.text (String.ofList characters)]

/-- The spans of a text that may still nest by this many levels. -/
def readNested : Nat → Text → List Span
  | 0, characters => literal characters
  | levels + 1, characters =>
      ((Piece.cut [] characters).foldr (Piece.join (readNested levels)) []).map Stretch.toSpan

/-- The spans of a text. -/
def read (characters : Text) : List Span :=
  readNested maxNesting characters

end Span

end Guidebook
