import Guidebook.Proofs.Block.CodeLines
import Guidebook.Proofs.Code.Classification
import Guidebook.Proofs.Text.Decimal
import Guidebook.Proofs.Typst.Literal
import Guidebook.Typst.Guide

namespace Guidebook

/-!
# Reading typeset code back

The markup of a block of code is read again by a reader that knows its grid: the first
argument tells how many columns it has, so which cells make a row, and every cell of
code is a run of string literals, in a colour or not.  A reader is shown to take just
what has been written for it, whatever stands behind, and the readers of parts are put
together as the parts are.
-/

namespace Typst

/-- Takes a value off the start of some markup. -/
abbrev Reader :=
  StateT Text Option

/-- A row of a grid of code: its number, if lines are numbered, and its string literals. -/
structure CodeRow where
  number? : Option Nat
  literals : List Text
  deriving Repr, DecidableEq

/-- The code that a row shows. -/
def CodeRow.code (row : CodeRow) : Text :=
  row.literals.flatten

namespace Reader

/-- Passes over a fixed text. -/
def skip (expected : Text) : Reader Unit := fun markup =>
  if expected.isPrefixOf markup then some ((), markup.drop expected.length) else none

/-- A string literal. -/
def literal : Reader Text :=
  unquote?

/-- A number in decimal digits. -/
def decimal : Reader Nat := fun markup =>
  let digits := markup.takeWhile Char.isDigit
  if digits.isEmpty then none
  else some (Nat.ofDigitChars 10 digits 0, markup.dropWhile Char.isDigit)

/-- As many values as there are in front of a fixed text, each of which takes some markup. -/
def upTo (stop : Text) (read : Reader α) (markup : Text) : Option (List α × Text) :=
  if stop.isPrefixOf markup then some ([], markup.drop stop.length)
  else
    match read.run markup with
    | none => none
    | some (value, rest) =>
        -- A reader that takes nothing would go on for ever.
        if rest.length < markup.length then
          (upTo stop read rest).map fun (values, behind) => (value :: values, behind)
        else none
termination_by markup.length

/-- A colour. -/
def rgb : Reader Text := do
  skip "rgb(".toList
  let color ← literal
  skip ")".toList
  return color

/-- The string literal that a call shows as code. -/
def raw : Reader Text := do
  skip "#raw(".toList
  let content ← literal
  skip ");".toList
  return content

/-- Code in a colour. -/
def colored : Reader Text := do
  skip "#text(fill: ".toList
  let _ ← rgb
  skip ")[".toList
  let content ← raw
  skip "];".toList
  return content

/-- The number of a line, where lines are numbered. -/
def lineNumber? : Bool → Reader (Option Nat)
  | false => return none
  | true => do
      skip "  [#text(fill: ".toList
      let _ ← rgb
      skip ")[".toList
      let number ← decimal
      skip "]],\n".toList
      return some number

/-- A row of the grid. -/
def row (isNumbered : Bool) : Reader CodeRow := do
  let number? ← lineNumber? isNumbered
  skip "  [".toList
  let literals ← upTo "],\n".toList (raw <|> colored)
  return ⟨number?, literals⟩

/-- Whether the columns of the grid have one for line numbers. -/
def columns : Reader Bool :=
  (do skip "(auto, 1fr)".toList; return true) <|> (do skip "(1fr,)".toList; return false)

/-- The rows of a block of code. -/
def listing : Reader (List CodeRow) := do
  skip "#block(breakable: false, width: 100%, inset: 8pt, radius: 4pt, fill: ".toList
  let _ ← rgb
  skip ")[\n#set text(size: 8pt, fill: ".toList
  let _ ← rgb
  skip ")\n#text(fill: ".toList
  let _ ← rgb
  skip ")[".toList
  let _ ← raw
  skip "]\n\n#grid(\n  columns: ".toList
  let isNumbered ← columns
  skip ",\n  column-gutter: 8pt,\n  row-gutter: 4pt,\n".toList
  upTo ")\n]\n\n".toList (row isNumbered)

end Reader

/-- The rows of a block of code that is all there is. -/
def readListing? (markup : Text) : Option (List CodeRow) :=
  match Reader.listing.run markup with
  | some (rows, []) => some rows
  | _ => none

/-! ## What readers take -/

/-- A reader takes a value off what is written for it, whatever stands behind. -/
def Reads (read : Reader α) (written : Text) (value : α) : Prop :=
  ∀ rest, read.run (written ++ rest) = some (value, rest)

theorem isPrefixOf_append
    (expected rest : Text) :
    expected.isPrefixOf (expected ++ rest) :=
  List.isPrefixOf_iff_prefix.mpr (List.prefix_append expected rest)

namespace Reads

variable
    {α β : Type}
    {read : Reader α}
    {written : Text}
    {value : α}

theorem pure
    (value : α) :
    Reads (pure value) [] value :=
  fun _ => rfl

/-- Two readers take what is written for the first and then what is written for the second. -/
theorem bind
    {next : α → Reader β}
    {behind : Text}
    {result : β}
    (first : Reads read written value)
    (second : Reads (next value) behind result) :
    Reads (read >>= next) (written ++ behind) result := by
  intro rest
  rw [StateT.run_bind, List.append_assoc, first]
  exact second rest

/-- An expected text is skipped. -/
theorem skip
    (expected : Text) :
    Reads (Reader.skip expected) expected () := by
  intro rest
  change (if expected.isPrefixOf (expected ++ rest) then _ else _) = _
  rw [if_pos (isPrefixOf_append expected rest), List.drop_left]

/-- A value is handed on when nothing but a fixed text stands behind it. -/
theorem skipReturn
    (expected : Text)
    (value : α) :
    Reads (do Reader.skip expected; return value) expected value := by
  have reads : Reads (do Reader.skip expected; return value) (expected ++ []) value :=
    (Reads.skip expected).bind (Reads.pure value)
  rwa [List.append_nil] at reads

/-- A string literal is read as the text that was quoted. -/
theorem literal
    (text : Text) :
    Reads Reader.literal (quote text) text :=
  unquote?_quote_append text

/-- A number ends where something other than a digit stands. -/
theorem decimal
    (number : Nat)
    {next : Nat → Reader β}
    {behind : Text}
    {result : β}
    (later : Reads (next number) behind result)
    (nonempty : behind ≠ [])
    (ends : ∀ first ∈ behind.head?, ¬ first.isDigit) :
    Reads (Reader.decimal >>= next) (Text.decimal number ++ behind) result := by
  intro rest
  have endsBehind : ∀ first ∈ (behind ++ rest).head?, ¬ first.isDigit := by
    rw [List.head?_append_of_ne_nil _ nonempty]
    exact ends
  obtain ⟨whole, others⟩ := Text.decimal_append_of_ends number endsBehind
  obtain ⟨digit, digits, shape, -⟩ := Text.exists_decimal_eq_cons number
  have isRead :
      Reader.decimal.run (Text.decimal number ++ (behind ++ rest)) =
        some (number, behind ++ rest) := by
    change (if ((Text.decimal number ++ (behind ++ rest)).takeWhile Char.isDigit).isEmpty then _
      else _) = _
    rw [whole, others, if_neg (by simp [shape]), Text.ofDigitChars_decimal]
  rw [StateT.run_bind, List.append_assoc, isRead]
  exact later rest

/-- The first of two readers takes what is written for it. -/
theorem orElse_left
    (reads : Reads read written value)
    (other : Reader α) :
    Reads (read <|> other) written value := by
  intro rest
  change (read.run (written ++ rest) <|> other.run (written ++ rest)) = _
  rw [reads rest]
  rfl

/-- The second of two readers takes what is written for it where the first one fails. -/
theorem orElse_right
    {first : Reader α}
    (fails : ∀ rest, first.run (written ++ rest) = none)
    (reads : Reads read written value) :
    Reads (first <|> read) written value := by
  intro rest
  change (first.run (written ++ rest) <|> read.run (written ++ rest)) = _
  rw [fails rest, reads rest]
  rfl

/-- Values that are written one after the other are taken up to the text that stops them. -/
theorem upTo
    {stop : Text}
    {items : List β}
    {write : β → Text}
    {make : β → α}
    (reads : ∀ item ∈ items, Reads read (write item) (make item))
    (apart : ∀ item ∈ items, ∀ rest, stop.isPrefixOf (write item ++ rest) = false) :
    Reads (Reader.upTo stop read) (items.flatMap write ++ stop) (items.map make) := by
  intro rest
  change Reader.upTo stop read (items.flatMap write ++ stop ++ rest) = _
  induction items with
  | nil =>
      rw [List.flatMap_nil, List.nil_append, Reader.upTo, if_pos (isPrefixOf_append stop rest),
        List.drop_left]
      rfl
  | cons item items inductionHypothesis =>
      obtain ⟨readsFirst, readsLater⟩ := List.forall_mem_cons.mp reads
      obtain ⟨apartFirst, apartLater⟩ := List.forall_mem_cons.mp apart
      have nonempty : write item ≠ [] := by
        intro isNil
        have isApart := apartFirst (stop ++ [])
        rw [isNil, List.nil_append, isPrefixOf_append] at isApart
        cases isApart
      have shorter :
          (items.flatMap write ++ stop ++ rest).length <
            (write item ++ (items.flatMap write ++ stop ++ rest)).length := by
        have positive := List.length_pos_of_ne_nil nonempty
        simp only [List.length_append]
        omega
      have isRead := readsFirst (items.flatMap write ++ stop ++ rest)
      have later := inductionHypothesis readsLater apartLater
      rw [List.flatMap_cons, List.append_assoc (write item), List.append_assoc (write item),
        Reader.upTo, apartFirst, if_neg Bool.false_ne_true, isRead]
      simp only [if_pos shorter, later]
      rfl

end Reads

/-! ## What is written -/

/-- A colour is read as the string that it was written from. -/
theorem reads_rgb
    (color : String) :
    Reads Reader.rgb (rgb color) color.toList := by
  unfold rgb
  rw [List.append_assoc]
  exact (Reads.skip _).bind ((Reads.literal _).bind (Reads.skipReturn _ _))

theorem reads_raw
    (content : Text) :
    Reads Reader.raw (raw content) content := by
  unfold raw
  rw [List.append_assoc]
  exact (Reads.skip _).bind ((Reads.literal _).bind (Reads.skipReturn _ _))

/-- A fragment is read as its text, in whatever colour it is set. -/
theorem reads_fragment
    (style : CodeStyle)
    (fragment : Fragment) :
    Reads (Reader.raw <|> Reader.colored) (fragment.typeset style) fragment.text := by
  obtain ⟨kind?, text⟩ := fragment
  cases kind? with
  | none =>
      exact (reads_raw text).orElse_left _
  | some kind =>
      have reads :
          Reads Reader.colored ((Fragment.classified kind text).typeset style) text := by
        simp only [Fragment.typeset, Fragment.classified, List.append_assoc]
        exact (Reads.skip _).bind ((reads_rgb _).bind
          ((Reads.skip _).bind ((reads_raw _).bind (Reads.skipReturn _ _))))
      -- The word of the call shows at once that the literal is in a colour.
      exact reads.orElse_right fun _ => rfl

/-- The number of a line is read where numbers are on, and else there is none. -/
theorem reads_lineNumber
    (style : CodeStyle)
    (number : Nat) :
    Reads (Reader.lineNumber? style.lineNumbers) (style.typesetNumber number)
      (if style.lineNumbers then some number else none) := by
  unfold CodeStyle.typesetNumber
  cases style.lineNumbers with
  | false =>
      exact Reads.pure none
  | true =>
      have ends : ∀ first ∈ "]],\n".toList.head?, ¬ first.isDigit := by
        intro first isFirst
        obtain rfl : ']' = first := Option.some.inj isFirst
        decide
      simp only [↓reduceIte, List.append_assoc]
      exact (Reads.skip _).bind ((reads_rgb _).bind
        ((Reads.skip _).bind (Reads.decimal number (Reads.skipReturn _ _) (by decide) ends)))

/-- A row starts with a blank, and so with no sign that ends the rows. -/
theorem exists_typesetLine_eq_cons
    (style : CodeStyle)
    (number : Nat)
    (line : List Fragment) :
    ∃ rest, style.typesetLine number line = ' ' :: rest := by
  unfold CodeStyle.typesetLine CodeStyle.typesetNumber
  split
  · exact ⟨_, rfl⟩
  · exact ⟨_, rfl⟩

/-- The row that a line of code is read as. -/
def codeRow (style : CodeStyle) (number : Nat) (line : List Fragment) : CodeRow where
  number? := if style.lineNumbers then some number else none
  literals := line.map Fragment.text

/-- The rows that lines of code are read as. -/
def codeRows (style : CodeStyle) (lines : List (List Fragment)) : List CodeRow :=
  (lines.zipIdx 1).map fun numbered => codeRow style numbered.2 numbered.1

/-- The rows of a listing hold the lines that its fragments make up. -/
theorem map_code_codeRows
    (style : CodeStyle)
    (lines : List (List Fragment)) :
    (codeRows style lines).map CodeRow.code = lines.map (·.flatMap Fragment.text) := by
  have sameCode :
      (CodeRow.code ∘ fun numbered : List Fragment × Nat => codeRow style numbered.2 numbered.1) =
        (·.flatMap Fragment.text) ∘ Prod.fst := by
    funext numbered
    simp [CodeRow.code, codeRow, List.flatMap_def]
  rw [codeRows, List.map_map, sameCode, ← List.map_map, List.zipIdx_map_fst]

/-- The rows are numbered from one where numbers are on. -/
theorem number?_of_getElem?_codeRows
    {style : CodeStyle}
    {lines : List (List Fragment)}
    {place : Nat}
    {row : CodeRow}
    (isRow : (codeRows style lines)[place]? = some row) :
    row.number? = if style.lineNumbers then some (place + 1) else none := by
  rw [codeRows, List.getElem?_map, List.getElem?_zipIdx, Option.map_map] at isRow
  obtain ⟨line, -, rfl⟩ := Option.map_eq_some_iff.mp isRow
  rw [Nat.add_comm]
  rfl

/-- A line of code is read as its row. -/
theorem reads_row
    (style : CodeStyle)
    (number : Nat)
    (line : List Fragment) :
    Reads (Reader.row style.lineNumbers) (style.typesetLine number line)
      (codeRow style number line) := by
  have cells :
      Reads (Reader.upTo "],\n".toList (Reader.raw <|> Reader.colored))
        (line.flatMap (Fragment.typeset style) ++ "],\n".toList) (line.map Fragment.text) := by
    refine Reads.upTo (fun fragment _ => reads_fragment style fragment) ?_
    rintro ⟨kind?, text⟩ _ rest
    cases kind? with
    | none | some =>
        rfl
  have shape :
      style.typesetLine number line =
        style.typesetNumber number ++ ("  [".toList ++
          (line.flatMap (Fragment.typeset style) ++ "],\n".toList ++ [])) := by
    simp only [CodeStyle.typesetLine, List.append_assoc, List.append_nil]
  rw [shape]
  exact (reads_lineNumber style number).bind ((Reads.skip _).bind (cells.bind (Reads.pure _)))

/-- Lines are set one by one, each with its number. -/
theorem typesetLines_eq_flatMap
    (style : CodeStyle)
    (number : Nat)
    (lines : List (List Fragment)) :
    style.typesetLines number lines =
      (lines.zipIdx number).flatMap fun numbered => style.typesetLine numbered.2 numbered.1 := by
  induction lines generalizing number with
  | nil =>
      rfl
  | cons line rest inductionHypothesis =>
      rw [CodeStyle.typesetLines, inductionHypothesis, List.zipIdx_cons, List.flatMap_cons]

/-- The columns of a listing tell whether numbers are on. -/
theorem reads_columns
    (style : CodeStyle) :
    Reads Reader.columns (if style.lineNumbers then "(auto, 1fr)" else "(1fr,)").toList
      style.lineNumbers := by
  cases style.lineNumbers with
  | false =>
      exact (Reads.skipReturn "(1fr,)".toList false).orElse_right fun _ => rfl
  | true =>
      exact (Reads.skipReturn "(auto, 1fr)".toList true).orElse_left _

/-- The rows of a block of code are read as the highlighted lines in order. -/
theorem reads_listing
    (style : CodeStyle)
    (language : String)
    (lines : List String) :
    Reads Reader.listing (style.typesetCode language lines)
      (codeRows style
        ((Language.ofTag language.toList).highlight
          (Text.joinLines (lines.map String.toList)))) := by
  unfold CodeStyle.typesetCode
  simp only [List.append_assoc, typesetLines_eq_flatMap, ← Text.joinLines.eq_1]
  refine (Reads.skip _).bind ((reads_rgb _).bind ((Reads.skip _).bind ((reads_rgb _).bind
    ((Reads.skip _).bind ((reads_rgb _).bind ((Reads.skip _).bind ((reads_raw _).bind
      ((Reads.skip _).bind ((reads_columns style).bind ((Reads.skip _).bind ?_))))))))))
  refine Reads.upTo (fun numbered _ => reads_row style numbered.2 numbered.1) ?_
  intro numbered _ rest
  obtain ⟨behind, shape⟩ := exists_typesetLine_eq_cons style numbered.2 numbered.1
  rw [shape]
  rfl

/-- A listing that the reader takes whole is read as its rows. -/
theorem readListing?_of_reads
    {markup : Text}
    {rows : List CodeRow}
    (reads : Reads Reader.listing markup rows) :
    readListing? markup = some rows := by
  have isRead := reads []
  rw [List.append_nil] at isRead
  rw [readListing?, isRead]

end Typst

namespace Block

/--
A block of code is typeset line by line without loss.  Its grid has a row for each line,
in order, which shows that very line, and with line numbers on the row is preceded by the
number of the line, counted from one.
-/
theorem readListing?_typeset
    (theme : Theme)
    {text : Text}
    (noReturn : '\r' ∉ text)
    {language : String}
    {lines : List String}
    (member : .codeBlock language lines ∈ read text) :
    ∃ rows,
      Typst.readListing? ((codeBlock language lines).typeset theme) = some rows ∧
        rows.map Typst.CodeRow.code = lines.map String.toList ∧
        ∀ place row,
          rows[place]? = some row →
            row.number? = if theme.code.lineNumbers then some (place + 1) else none := by
  let highlighted := (Language.ofTag language.toList).highlight
    (Text.joinLines (lines.map String.toList))
  have isHighlighted :
      highlighted.map (·.flatMap Fragment.text) = lines.map String.toList := by
    rw [Language.map_flatMap_text_highlight]
    exact (listed_of_mem_read noReturn member).lines_joinLines
  refine ⟨Typst.codeRows theme.code highlighted, ?_, ?_, ?_⟩
  · exact Typst.readListing?_of_reads (Typst.reads_listing theme.code language lines)
  · rw [Typst.map_code_codeRows, isHighlighted]
  · exact fun _ _ => Typst.number?_of_getElem?_codeRows

/-- A blank line between others has a row of its own. -/
theorem readListing?_typeset_blank :
    '\r' ∉ ['\x60', '\x60', '\x60', '\n', 'a', '\n', '\n', 'b'] ∧
      .codeBlock "bash" ["a", "", "b"] ∈
        read ['\x60', '\x60', '\x60', '\n', 'a', '\n', '\n', 'b'] ∧
      ∃ rows,
        Typst.readListing? ((codeBlock "bash" ["a", "", "b"]).typeset {}) = some rows ∧
          rows.map Typst.CodeRow.code = [['a'], [], ['b']] := by
  have noReturn : '\r' ∉ ['\x60', '\x60', '\x60', '\n', 'a', '\n', '\n', 'b'] := by
    decide
  have isRead :
      read ['\x60', '\x60', '\x60', '\n', 'a', '\n', '\n', 'b'] =
        [.codeBlock "bash" ["a", "", "b"]] := by
    cbv
  have member :
      .codeBlock "bash" ["a", "", "b"] ∈
        read ['\x60', '\x60', '\x60', '\n', 'a', '\n', '\n', 'b'] := by
    rw [isRead]
    exact List.mem_singleton_self _
  obtain ⟨rows, isListing, isCode, -⟩ := readListing?_typeset {} noReturn member
  exact ⟨noReturn, member, rows, isListing, isCode⟩

end Block

end Guidebook
