import Guidebook.Block.Basic
import Guidebook.Text.Basic

namespace Guidebook

/-!
# Rows of a table

A row stands between two bars.  Bars divide its cells, a bar behind a backslash
belongs to its cell, and blanks around a cell do not count.
-/

/-- Divides a text at its bars, of which those behind a backslash are kept as text. -/
def splitCells : Text → List Text
  | [] => [[]]
  | '\\' :: '|' :: rest => consFirst '|' (splitCells rest)
  | '|' :: rest => [] :: splitCells rest
  | character :: rest => consFirst character (splitCells rest)

/-- The cells of a line that starts with one bar and ends with another. -/
def rowCells? (line : Line) : Option (List Text) :=
  match line with
  | '|' :: rest =>
      if rest.getLast? = some '|' then some ((splitCells rest.dropLast).map Text.trim)
      else none
  | _ => none

namespace Alignment

/-- The alignment asked for by a colon at either end of a cell. -/
def ofColons (leading trailing : Bool) : Alignment :=
  match leading, trailing with
  | true, true => .center
  | true, false => .left
  | false, true => .right
  | false, false => .none

/-- The alignment that a cell of dashes sets, with or without colons at its ends. -/
def ofCell? (cell : Text) : Option Alignment :=
  let leading := cell.head? == some ':'
  let dashes := if leading then cell.tail else cell
  if dashes.head? = some '-' then
    match dashes.dropWhile (· == '-') with
    | [] => some (ofColons leading false)
    | [':'] => some (ofColons leading true)
    | _ => Option.none
  else
    Option.none

/-- The alignments that a line sets, when it is a row of dashes. -/
def ofSeparator? (line : Line) : Option (List Alignment) :=
  match rowCells? line with
  | some cells => cells.mapM ofCell?
  | Option.none => Option.none

end Alignment

end Guidebook
