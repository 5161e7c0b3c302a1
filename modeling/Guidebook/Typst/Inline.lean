import Guidebook.Span.Basic
import Guidebook.Typst.Literal

namespace Guidebook

/-!
# Typeset spans

Each formatted span becomes a call.  A call ends with a semicolon, so that what
follows it cannot be read as part of it.
-/

namespace Typst

/-- A call with content only. -/
def wrap (name : String) (content : Text) : Text :=
  '#' :: name.toList ++ '[' :: content ++ "];".toList

/-- Text shown as it is, in the style of code. -/
def raw (text : Text) : Text :=
  "#raw(".toList ++ quote text ++ ");".toList

/-- A link to a target; without a label it shows the target. -/
def link (url : Text) (label : Option Text) : Text :=
  let shown :=
    match label with
    | none => []
    | some content => '[' :: content ++ [']']
  "#link(".toList ++ quote url ++ ')' :: shown ++ [';']

theorem link_none (url : Text) :
    link url none = "#link(".toList ++ quote url ++ ')' :: [] ++ [';'] :=
  rfl

theorem link_some (url content : Text) :
    link url (some content) =
      "#link(".toList ++ quote url ++ ')' :: ('[' :: content ++ [']']) ++ [';'] :=
  rfl

end Typst

mutual

/-- A span as markup.  Images cannot be shown, so they become links to them. -/
def Span.typeset : Span → Text
  | .text content => Typst.escape content.toList
  | .bold content => Typst.wrap "strong" (Span.typesetAll content)
  | .italic content => Typst.wrap "emph" (Span.typesetAll content)
  | .strikethrough content => Typst.wrap "strike" (Span.typesetAll content)
  | .code content => Typst.raw content.toList
  | .link url content =>
      let label := if content.isEmpty then none else some (Span.typesetAll content)
      Typst.link url.toList label
  | .image alt url =>
      let label := if alt.isEmpty then url else alt
      Typst.link url.toList (some (Typst.escape label.toList))

/-- Spans as markup, one after the other. -/
def Span.typesetAll : List Span → Text
  | [] => []
  | span :: rest => span.typeset ++ Span.typesetAll rest

end

end Guidebook
