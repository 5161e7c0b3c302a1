import Guidebook.Proofs.Typst.Listings
import Guidebook.Proofs.Typst.Nesting

namespace Guidebook

/-!
# Reading typeset tables back

The markup of a table is read again as a number of columns, the words for their
alignment, if there are any, and cells one after the other.  Whatever stands in a cell,
the bracket that closes it is found by what is open in between.  A table is rectangular:
rows are filled up or cut to the number of headers, and so are the alignments.
-/

namespace Typst

open Enclosure

/-- The markup of a table: how many columns it has, how they are aligned, and its cells. -/
structure TableMarkup where
  columns : Nat
  alignments? : Option (List String)
  cells : List Text
  deriving Repr, DecidableEq

/--
The content up to the character that closes all that has been opened, and the markup
behind that character.
-/
def contentRest? (opened : List Enclosure) : Text → Option (Text × Text)
  | [] => none
  | character :: rest =>
      match step opened character with
      | none => none
      | some [] => some ([], rest)
      | some left =>
          (contentRest? left rest).map fun (shown, behind) => (character :: shown, behind)

namespace Reader

/-- Content whose opening bracket has been read, with its closing bracket. -/
def content : Reader Text :=
  contentRest? [.content]

/-- One of some words, the first that fits. -/
def oneOf (words : List String) : Reader String := fun markup =>
  (words.find? (·.toList.isPrefixOf markup)).map fun word =>
    (word, markup.drop word.toList.length)

/-- The word for an alignment. -/
def alignment : Reader String :=
  oneOf ["auto", "left", "center", "right"]

/-- The alignments of all columns. -/
def alignments : Reader (List String) := do
  skip "  align: (".toList
  let first ← alignment
  let others ← upTo ",),\n".toList (do skip ", ".toList; alignment)
  return first :: others

/-- A cell. -/
def cell : Reader Text := do
  skip "  [".toList
  let shown ← content
  skip ",\n".toList
  return shown

/-- A table. -/
def table : Reader TableMarkup := do
  skip "#table(\n  columns: ".toList
  let columns ← decimal
  skip ",\n".toList
  (do
    let words ← alignments
    let cells ← upTo ")\n".toList cell
    return ⟨columns, some words, cells⟩) <|>
  (do
    let cells ← upTo ")\n".toList cell
    return ⟨columns, none, cells⟩)

end Reader

/-- A text that leaves the brackets around it open is read as part of the content in them. -/
theorem contentRest?_append
    {opened left : List Enclosure}
    {text : Text}
    (leaves : Leaves opened text left)
    (rest : Text) :
    contentRest? (opened ++ [.content]) (text ++ rest) =
      (contentRest? (left ++ [.content]) rest).map fun (shown, behind) =>
        (text ++ shown, behind) := by
  induction text generalizing opened with
  | nil =>
      cases leaves
      exact Option.map_id'.symm
  | cons character text inductionHypothesis =>
      rw [Leaves, scan, List.foldlM_cons] at leaves
      obtain ⟨middle, stepped, behind⟩ := Option.bind_eq_some_iff.mp leaves
      have later := inductionHypothesis behind
      rw [List.cons_append, contentRest?, step_append stepped []]
      split
      · next isNone =>
          cases isNone
      · next isClosed =>
          simp at isClosed
      · next middle isOpen =>
          cases isOpen
          rw [later, Option.map_map]
          rfl

/-- What the cell of a header shows. -/
def headerContent (header : Cell) : Text :=
  "#strong[".toList ++ Span.typesetAll header ++ [']']

/-- What the cells of a table show, in rows that are as wide as there are headers. -/
def grid (headers : List Cell) (rows : List (List Cell)) : List (List Text) :=
  headers.map headerContent ::
    rows.map fun row =>
      (List.range headers.length).map fun column => Span.typesetAll (row.getD column [])

section Cells

variable
    (headers : List Cell)
    (rows : List (List Cell))

end Cells

/-! ## Alignments -/

end Typst

end Guidebook
