import Guidebook.Code.Language
import Guidebook.Text.Case
import Guidebook.Theme.Basic
import Guidebook.Typst.Inline

namespace Guidebook

/-!
# Typeset code

Code is set as a grid with one row for each line, below a label with the name
of its language.  Every fragment of a line is a string literal of its own.
-/

/-- A fragment of code in its colour. -/
def Fragment.typeset (style : CodeStyle) (fragment : Fragment) : Text :=
  match fragment.kind with
  | none => Typst.raw fragment.text
  | some kind =>
      "#text(fill: ".toList ++ Typst.rgb (style.colorFor kind) ++ ")[".toList ++
        Typst.raw fragment.text ++ "];".toList

namespace CodeStyle

/-- The number in front of a line of code, when lines are numbered. -/
def typesetNumber (style : CodeStyle) (lineNumber : Nat) : Text :=
  if style.lineNumbers then
    "  [#text(fill: ".toList ++ Typst.rgb style.gutter ++ ")[".toList ++
      Text.decimal lineNumber ++ "]],\n".toList
  else
    []

/-- The grid row of a line of code. -/
def typesetLine (style : CodeStyle) (lineNumber : Nat) (line : List Fragment) : Text :=
  style.typesetNumber lineNumber ++ "  [".toList ++ line.flatMap (Fragment.typeset style) ++
    "],\n".toList

/-- The grid rows of lines of code, of which the first has a given number. -/
def typesetLines (style : CodeStyle) (lineNumber : Nat) : List (List Fragment) → Text
  | [] => []
  | line :: rest =>
      style.typesetLine lineNumber line ++ style.typesetLines (lineNumber + 1) rest

/-- A block of code. -/
def typesetCode (style : CodeStyle) (language : String) (lines : List String) : Text :=
  let code := ['\n'].intercalate (lines.map String.toList)
  let highlighted := (Language.ofTag language.toList).highlight code
  "#block(breakable: false, width: 100%, inset: 8pt, radius: 4pt, fill: ".toList ++
    Typst.rgb style.background ++ ")[\n#set text(size: 8pt, fill: ".toList ++
    Typst.rgb style.foreground ++ ")\n#text(fill: ".toList ++ Typst.rgb style.label ++
    ")[".toList ++ Typst.raw (Text.toCapitals language.toList) ++
    "]\n\n#grid(\n  columns: ".toList ++
    (if style.lineNumbers then "(auto, 1fr)" else "(1fr,)").toList ++
    ",\n  column-gutter: 8pt,\n  row-gutter: 4pt,\n".toList ++
    style.typesetLines 1 highlighted ++ ")\n]\n\n".toList

end CodeStyle

end Guidebook
