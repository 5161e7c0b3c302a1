import Guidebook.Block.Basic
import Guidebook.Span.Reading

namespace Guidebook

/-!
# Quotes

A quote is read from the texts behind its marks.  A known marker in front of
the first of them makes it an admonition.
-/

/-- Reads a marker such as `[!NOTE]` at the start of a text: its kind, and what follows. -/
def Callout.marker? (text : Text) : Option (Callout × Text) :=
  match text with
  | '[' :: '!' :: rest =>
      match rest.dropWhile Char.isAlpha with
      | ']' :: body =>
          (ofMarker? (rest.takeWhile Char.isAlpha)).map fun callout => (callout, body)
      | _ => none
  | _ => none

/-- Groups the texts between empty ones. -/
def groupsBetweenEmpty : List Text → List (List Text)
  | [] => []
  | text :: rest =>
      if text.isEmpty then [] :: groupsBetweenEmpty rest
      else consFirst text (groupsBetweenEmpty rest)

/-- Texts as one text, with a space between any two. -/
def joinWithSpaces (texts : List Text) : Text :=
  [' '].intercalate texts

/-- The paragraphs of a quote: blank lines divide them, and the lines of one are joined. -/
def quoteParagraphs (lines : List Text) : List (List Span) :=
  ((groupsBetweenEmpty (lines.map Text.trim)).filter (!·.isEmpty)).map fun group =>
    Span.read (joinWithSpaces group)

/-- The quote made of some texts.  An unknown marker stays in the text. -/
def Block.ofQuote (first : Text) (others : List Text) : Block :=
  match Callout.marker? first with
  | some (callout, body) => .blockquote (some callout) (quoteParagraphs (body :: others))
  | none => .blockquote none (quoteParagraphs (first :: others))

end Guidebook
