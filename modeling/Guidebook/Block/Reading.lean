import Guidebook.Block.Item
import Guidebook.Block.LineKind
import Guidebook.Block.Quote
import Guidebook.Text.Case

namespace Guidebook

/-!
# Reading a guide

A guide is read line by line.  The kind of a line says which block begins there,
and the block takes as many of the lines that follow as belong to it.  Reading
never fails: what opens nothing else is a paragraph.
-/

/-- The values of the leading lines that have one, and the lines after these. -/
def takeLeading (value? : Line → Option α) : List Line → List α × List Line
  | [] => ([], [])
  | line :: rest =>
      match value? line with
      | none => ([], line :: rest)
      | some value =>
          let (values, others) := takeLeading value? rest
          (value :: values, others)

/-- Taking leading lines leaves no more lines than there were. -/
theorem takeLeading_length_le (value? : Line → Option α) (lines : List Line) :
    (takeLeading value? lines).2.length ≤ lines.length := by
  induction lines with
  | nil =>
      simp [takeLeading]
  | cons line rest inductionHypothesis =>
      rw [takeLeading]
      split
      · simp
      · simp only [List.length_cons]
        omega

/-- The text of a line of prose, which is the only kind that carries on a paragraph. -/
def prose? (line : Line) : Option Text :=
  match LineKind.of line with
  | .prose => some line.trim
  | _ => none

/-- The text behind the mark of a quoted line. -/
def quoted? (line : Line) : Option Text :=
  match LineKind.of line with
  | .quote content => some content
  | _ => none

/-- The cells of a table row. -/
def cells? (line : Line) : Option (List Cell) :=
  match LineKind.of line with
  | .row cells => some (cells.map Span.read)
  | _ => none

/--
The entry on a line that carries on a list which starts at some indent.  A blank
line carries it on without an entry.
-/
def entryOf? (base : Nat) (line : Line) : Option (Option Entry) :=
  match LineKind.of line with
  | .blank => some none
  | .item ordered body =>
      if base ≤ line.indent then some (some ⟨line.indent, ordered, Item.ofBody body⟩)
      else none
  | _ => none

namespace Block

/-- The language of code whose language is not told. -/
def defaultLanguage : String := "bash"

/-- The language named by the description behind a fence, in small letters. -/
def languageOf (info : Text) : String :=
  match info.firstWord? with
  | none => defaultLanguage
  | some word => String.ofList (Text.toSmall word)

/-- Code of a language, without the blank lines at its end. -/
def ofCode (language : String) (lines : List Line) : Block :=
  .codeBlock language (((lines.reverse.dropWhile Text.isBlankLine).reverse).map String.ofList)

/-- The paragraph made of a line and those that carry it on. -/
def takeParagraph (line : Line) (rest : List Line) : Block × List Line :=
  let (texts, others) := takeLeading prose? rest
  (.paragraph (Span.read (joinWithSpaces (line.trim :: texts))), others)

/-- The code after a fence, up to a line that starts with at least as many of its marks. -/
def takeFenced (marker : Char) (length : Nat) (info : Text) (rest : List Line) :
    Block × List Line :=
  let isCode (line : Line) := line.trim.runLength marker < length
  (ofCode (languageOf info) (rest.takeWhile isCode), (rest.dropWhile isCode).drop 1)

/-- The table below a row of headers, when a row of dashes comes first. -/
def takeTable? (headers : List Text) : List Line → Option (Block × List Line)
  | [] => none
  | separator :: rest =>
      (Alignment.ofSeparator? separator.trim).map fun alignments =>
        let (rows, others) := takeLeading cells? rest
        (.table alignments (headers.map Span.read) rows, others)

/--
The block that a line begins, when it is not blank, and the lines after that
block.  A row that opens no table is a paragraph.
-/
def take (line : Line) (rest : List Line) : Option Block × List Line :=
  match LineKind.of line with
  | .blank => (none, rest)
  | .heading level content => (some (.heading level (Span.read content)), rest)
  | .rule => (some .rule, rest)
  | .command text => (some (ofCode defaultLanguage [text]), rest)
  | .fence marker length info =>
      let (block, others) := takeFenced marker length info rest
      (some block, others)
  | .row headers =>
      match takeTable? headers rest with
      | some (block, others) => (some block, others)
      | none =>
          let (block, others) := takeParagraph line rest
          (some block, others)
  | .quote content =>
      let (contents, others) := takeLeading quoted? rest
      (some (ofQuote content contents), others)
  | .item ordered body =>
      let (entries, others) := takeLeading (entryOf? line.indent) rest
      let first : Entry := ⟨line.indent, ordered, Item.ofBody body⟩
      (some (.list (ItemList.ofEntries first entries.reduceOption)), others)
  | .prose =>
      let (block, others) := takeParagraph line rest
      (some block, others)

/-- A paragraph takes its lines off those that follow. -/
theorem takeParagraph_length_le (line : Line) (rest : List Line) :
    (takeParagraph line rest).2.length ≤ rest.length :=
  takeLeading_length_le prose? rest

/-- Fenced code takes its lines off those that follow. -/
theorem takeFenced_length_le (marker : Char) (length : Nat) (info : Text) (rest : List Line) :
    (takeFenced marker length info rest).2.length ≤ rest.length := by
  simp only [takeFenced, List.length_drop]
  exact Nat.le_trans (Nat.sub_le _ _) (List.dropWhile_sublist _).length_le

/-- A table takes its lines off those that follow. -/
theorem takeTable?_length_le {headers : List Text} {lines others : List Line} {block : Block}
    (found : takeTable? headers lines = some (block, others)) :
    others.length ≤ lines.length := by
  cases lines with
  | nil =>
      simp [takeTable?] at found
  | cons separator rest =>
      obtain ⟨alignments, _, taken⟩ := Option.map_eq_some_iff.mp found
      have bound := takeLeading_length_le cells? rest
      simp only [Prod.mk.injEq] at taken
      rw [← taken.2, List.length_cons]
      omega

/-- A block takes its lines off those that follow. -/
theorem take_length_le (line : Line) (rest : List Line) :
    (take line rest).2.length ≤ rest.length := by
  unfold take
  split
  · exact Nat.le_refl _
  · exact Nat.le_refl _
  · exact Nat.le_refl _
  · exact Nat.le_refl _
  · next marker length info _ => exact takeFenced_length_le marker length info rest
  · split
    · next found => exact takeTable?_length_le found
    · exact takeParagraph_length_le line rest
  · exact takeLeading_length_le quoted? rest
  · exact takeLeading_length_le (entryOf? line.indent) rest
  · exact takeParagraph_length_le line rest

/-- The blocks of some lines. -/
def ofLines : List Line → List Block
  | [] => []
  | line :: rest =>
      match _taken : take line rest with
      | (block?, others) => block?.toList ++ ofLines others
termination_by lines => lines.length
decreasing_by
  have bound := take_length_le line rest
  simp only [_taken] at bound
  simp only [List.length_cons]
  omega

/-- The blocks of a guide. -/
def read (text : Text) : List Block :=
  ofLines text.trim.lines

end Block

end Guidebook
