import Guidebook.Block.Basic
import Guidebook.Typst.Inline

namespace Guidebook

/-!
# Typeset tables

A table has as many columns as it has headers.  Rows are filled up or cut to
that width, and alignments likewise.
-/

namespace Typst

/-- The word for an alignment. -/
def alignment : Alignment → String
  | .none => "auto"
  | .left => "left"
  | .center => "center"
  | .right => "right"

/-- The alignment of each column, when any is set. -/
def columnAlignments (columns : Nat) (alignments : List Alignment) : Text :=
  if alignments.all (· = .none) then []
  else
    let words := (List.range columns).map fun column =>
      (alignment (alignments.getD column .none)).toList
    "  align: (".toList ++ (", ".toList).intercalate words ++ ",),\n".toList

/-- A header cell. -/
def headerCell (cell : Cell) : Text :=
  "  [#strong[".toList ++ Span.typesetAll cell ++ "]],\n".toList

/-- A cell of a row, which is empty where the row is too short. -/
def bodyCell (cell : Cell) : Text :=
  "  [".toList ++ Span.typesetAll cell ++ "],\n".toList

/-- The cells of a row in a table of so many columns. -/
def bodyRow (columns : Nat) (row : List Cell) : Text :=
  (List.range columns).flatMap fun column => bodyCell (row.getD column [])

/-- A table; without headers there is nothing to show. -/
def table (alignments : List Alignment) (headers : List Cell) (rows : List (List Cell)) : Text :=
  if headers.isEmpty then []
  else
    "#table(\n  columns: ".toList ++ Text.decimal headers.length ++ ",\n".toList ++
      columnAlignments headers.length alignments ++ headers.flatMap headerCell ++
      rows.flatMap (bodyRow headers.length) ++ ")\n".toList

end Typst

end Guidebook
