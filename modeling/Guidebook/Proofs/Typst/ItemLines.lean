import Guidebook.Proofs.Block.ItemContents
import Guidebook.Proofs.Span.Writing
import Guidebook.Proofs.Text.Indenting
import Guidebook.Proofs.Text.Joining
import Guidebook.Typst.ItemList
import Mathlib.Data.List.Permutation

namespace Guidebook

/-!
# The lines of typeset lists

A list is typeset with a line for each of its items and for each item of the lists
inside it, in the order in which they are read.  No item holds a line end, so the lines
can be told apart again, and the indents and markers of the lines tell the nesting of
the items.
-/

namespace Typst

/-! ## No line end gets into markup -/

/-- Escaping brings no line feed into a text. -/
theorem newline_not_mem_escape
    {text : Text}
    (noFeed : '\n' ∉ text) :
    '\n' ∉ escape text := by
  intro member
  obtain ⟨character, isIn, isFeed⟩ := List.mem_flatMap.mp member
  unfold escapeCharacter at isFeed
  split at isFeed
  · have same : character = '\n' := by
      simpa [eq_comm] using isFeed
    exact noFeed (same ▸ isIn)
  · exact noFeed (List.mem_singleton.mp isFeed ▸ isIn)

theorem newline_not_mem_quote
    {text : Text}
    (noFeed : '\n' ∉ text) :
    '\n' ∉ quote text := by
  have inside : '\n' ∉ text.flatMap quoteCharacter := by
    intro member
    obtain ⟨character, isIn, isFeed⟩ := List.mem_flatMap.mp member
    fun_cases quoteCharacter character with
    | case1 isQuote | case2 _ isBackslash | case3 _ _ isTab =>
        simp_all [quoteCharacter]
    | case4 notQuote notBackslash notTab =>
        have same : '\n' = character := by
          simpa [quoteCharacter, notQuote, notBackslash, notTab] using isFeed
        exact noFeed (same ▸ isIn)
  simpa [quote] using inside

/-- Raw code has a line feed only if its text does. -/
theorem newline_not_mem_raw
    {text : Text}
    (noFeed : '\n' ∉ text) :
    '\n' ∉ raw text := by
  have literal := newline_not_mem_quote noFeed
  unfold raw
  simp [literal]

theorem newline_not_mem_wrap
    {name : String}
    (nameNoFeed : '\n' ∉ name.toList)
    {content : Text}
    (noFeed : '\n' ∉ content) :
    '\n' ∉ wrap name content := by
  simp [wrap, nameNoFeed, noFeed]

/-- A link has a line feed only if its target or its label does. -/
theorem newline_not_mem_link
    {url : Text}
    (urlNoFeed : '\n' ∉ url)
    {label : Option Text}
    (noFeed : ∀ content ∈ label, '\n' ∉ content) :
    '\n' ∉ link url label := by
  have target := newline_not_mem_quote urlNoFeed
  cases label with
  | none =>
      simp [link_none, target]
  | some content =>
      have label := noFeed content rfl
      simp [link_some, target, label]

end Typst

mutual

/-- A span has no line end in its markup if it has none with its delimiters. -/
theorem Span.newline_not_mem_typeset
    {span : Span}
    (noFeed : '\n' ∉ span.write) :
    '\n' ∉ span.typeset := by
  cases span with
  | text content =>
      rw [typeset]
      exact Typst.newline_not_mem_escape (by simpa [write] using noFeed)
  | bold content | italic content | strikethrough content =>
      rw [typeset]
      apply Typst.newline_not_mem_wrap (by simp)
      exact newline_not_mem_typesetAll (by simpa [write] using noFeed)
  | code content =>
      rw [typeset]
      exact Typst.newline_not_mem_raw (by simpa [write] using noFeed)
  | link url content =>
      simp only [write, List.mem_append, not_or] at noFeed
      rw [typeset]
      refine Typst.newline_not_mem_link noFeed.1.2 fun label isLabel => ?_
      rw [Option.mem_def, Option.ite_none_left_eq_some, Option.some.injEq] at isLabel
      rw [← isLabel.2]
      exact newline_not_mem_typesetAll noFeed.1.1.1.2
  | image alt url =>
      simp only [write, List.mem_append, not_or] at noFeed
      rw [typeset]
      refine Typst.newline_not_mem_link noFeed.1.2 fun label isLabel => ?_
      rw [Option.mem_def, Option.some.injEq] at isLabel
      rw [← isLabel]
      apply Typst.newline_not_mem_escape
      split
      · exact noFeed.1.2
      · exact noFeed.1.1.1.2

/-- Spans whose source is on one line are set on one line. -/
theorem Span.newline_not_mem_typesetAll
    {spans : List Span}
    (noFeed : '\n' ∉ writeAll spans) :
    '\n' ∉ typesetAll spans := by
  cases spans with
  | nil =>
      exact List.not_mem_nil
  | cons span rest =>
      rw [writeAll, List.mem_append, not_or] at noFeed
      rw [typesetAll, List.mem_append, not_or]
      exact ⟨newline_not_mem_typeset noFeed.1, newline_not_mem_typesetAll noFeed.2⟩

end

/-- An item behind its marker: its box, if it is a task, and what it shows. -/
def Item.shown : Item → Text
  | .mk content checked _ => Typst.taskBox checked ++ Span.typesetAll content

/--
A line of a typeset list: the number of lists that its own list lies in, whether that
is numbered, and what is behind the marker.
-/
structure ListRow where
  level : Nat
  ordered : Bool
  shown : Text
  deriving Repr, DecidableEq

namespace ListRow

/-- Two spaces for each list around, the marker and what is behind it. -/
def line (row : ListRow) : Line :=
  List.replicate (2 * row.level) ' ' ++ (if row.ordered then '+' else '-') :: ' ' :: row.shown

/-- Reads a row off its line. -/
def ofLine? (line : Line) : Option ListRow :=
  let level := (line.takeWhile (· == ' ')).length / 2
  match line.dropWhile (· == ' ') with
  | '+' :: ' ' :: shown => some ⟨level, true, shown⟩
  | '-' :: ' ' :: shown => some ⟨level, false, shown⟩
  | _ => none

/-- The line of a row is read as that row. -/
theorem ofLine?_line
    (row : ListRow) :
    ofLine? row.line = some row := by
  obtain ⟨level, ordered, shown⟩ := row
  have spaces : ∀ character ∈ List.replicate (2 * level) ' ', (character == ' ') = true := by
    intro character member
    rw [List.eq_of_mem_replicate member]
    rfl
  have stops :
      ∀ first ∈ ((if ordered then '+' else '-') :: ' ' :: shown).head?,
        ¬ (first == ' ') = true := by
    cases ordered with
    | true | false =>
        simp
  obtain ⟨indent, behind⟩ := takeWhile_append_of_stops spaces stops
  rw [ofLine?, line, indent, behind]
  cases ordered with
  | true | false =>
      simp

/-- A line is read as a row only when it shows that behind a marker and a space. -/
theorem exists_suffix_of_ofLine?
    {line : Line}
    {row : ListRow}
    (found : ofLine? line = some row) :
    ∃ marker, marker :: ' ' :: row.shown <:+ line := by
  have suffix := List.dropWhile_suffix (l := line) (· == ' ')
  unfold ofLine? at found
  dsimp only at found
  split at found
  case h_1 isMarked | h_2 isMarked =>
      cases found
      rw [isMarked] at suffix
      exact ⟨_, suffix⟩
  case h_3 =>
      cases found

end ListRow

/-- The row of an item that stands on a level; the outermost list is on the first. -/
def Node.row (node : Node) : ListRow :=
  ⟨node.level - 1, node.ordered, node.item.shown⟩

/-- The line of an item is that of a row which shows its box and its content. -/
theorem Typst.itemLine_eq
    (depth : Nat)
    (ordered : Bool)
    (checked : Option Bool)
    (content : List Span) :
    itemLine depth ordered checked content =
      ListRow.line ⟨depth, ordered, taskBox checked ++ Span.typesetAll content⟩ ++ ['\n'] := by
  simp [itemLine, ListRow.line]

mutual

/-- A list is typeset row by row. -/
theorem ItemList.typeset_eq_flatMap
    (depth : Nat)
    (list : ItemList) :
    list.typeset depth =
      (list.preorder (depth + 1)).flatMap fun node => node.row.line ++ ['\n'] := by
  cases list with
  | mk ordered items =>
      exact Item.typesetAll_eq_flatMap depth ordered true items

/-- Items are set as the lines of the nodes that they come to in preorder. -/
theorem Item.typesetAll_eq_flatMap
    (depth : Nat)
    (ordered leads : Bool)
    (items : List Item) :
    Item.typesetAll depth ordered items =
      (Item.preorderAll (depth + 1) ordered leads items).flatMap fun node =>
        node.row.line ++ ['\n'] := by
  cases items with
  | nil =>
      rfl
  | cons item rest =>
      have restSame := Item.typesetAll_eq_flatMap depth ordered false rest
      cases item with
      | mk content checked nested =>
          cases nested with
          | none =>
              rw [Item.typesetAll, Item.preorderAll, List.flatMap_cons, restSame,
                Typst.itemLine_eq]
              rfl
          | some list =>
              rw [Item.typesetAll, Item.preorderAll, List.flatMap_cons, List.flatMap_append,
                restSame, list.typeset_eq_flatMap, Typst.itemLine_eq, List.append_assoc]
              rfl

end

mutual

/-- A list has as many nodes in preorder as it has items in all. -/
theorem ItemList.length_preorder
    (level : Nat)
    (list : ItemList) :
    (list.preorder level).length = list.count := by
  cases list with
  | mk ordered items =>
      exact Item.length_preorderAll level ordered true items

theorem Item.length_preorderAll
    (level : Nat)
    (ordered leads : Bool)
    (items : List Item) :
    (Item.preorderAll level ordered leads items).length = Item.countAll items := by
  cases items with
  | nil =>
      rfl
  | cons item rest =>
      have restLength := Item.length_preorderAll level ordered false rest
      cases item with
      | mk content checked nested =>
          cases nested with
          | none =>
              rw [Item.preorderAll, Item.countAll, List.length_cons, restLength]
          | some list =>
              rw [Item.preorderAll, Item.countAll, List.length_cons, List.length_append,
                restLength, list.length_preorder]

end

/-! ## Reading a list back -/

/-- What the lines of a list tell: whether it is numbered, and its rows with the lists in them. -/
inductive ListTree where
  | mk (ordered : Bool) (rows : List (Text × Option ListTree))

namespace ListTree

/-- The rows of a list, each with the list of the deeper rows right behind it, if there are any. -/
def rowsOf : List ListRow → List (Text × Option ListTree)
  | [] => []
  | row :: rest =>
      let inside := rest.takeWhile (row.level < ·.level)
      (row.shown, inside.head?.map fun first => .mk first.ordered (rowsOf inside)) ::
        rowsOf (rest.dropWhile (row.level < ·.level))
termination_by rows => rows.length
decreasing_by
  · exact Nat.lt_succ_of_le (List.takeWhile_sublist _).length_le
  · exact Nat.lt_succ_of_le (List.dropWhile_sublist _).length_le

/-- The list that some rows make; the first row tells whether it is numbered. -/
def ofRows? (rows : List ListRow) : Option ListTree :=
  rows.head?.map fun first => .mk first.ordered (rowsOf rows)

/-- The deeper rows behind a row make the list inside it, up to one that is not deeper. -/
theorem rowsOf_cons_append
    {row : ListRow}
    {inside rest : List ListRow}
    (deeper : ∀ other ∈ inside, row.level < other.level)
    (stops : ∀ first ∈ rest.head?, ¬ row.level < first.level) :
    rowsOf (row :: (inside ++ rest)) = (row.shown, ofRows? inside) :: rowsOf rest := by
  have passes : ∀ other ∈ inside, decide (row.level < other.level) = true := by
    simpa using deeper
  have ends : ∀ first ∈ rest.head?, ¬ decide (row.level < first.level) = true := by
    simpa using stops
  obtain ⟨within, beyond⟩ := takeWhile_append_of_stops passes ends
  rw [rowsOf, within, beyond]
  rfl

/-- Reads a list back from its lines. -/
def read? (markup : Text) : Option ListTree :=
  ((markup.splitOn '\n').dropLast.mapM ListRow.ofLine?).bind ofRows?

end ListTree

mutual

/-- What a list shows, with its nesting. -/
def ItemList.tree : ItemList → ListTree
  | .mk ordered items => .mk ordered (Item.rows items)

/-- What some items show, each with the list inside it. -/
def Item.rows : List Item → List (Text × Option ListTree)
  | [] => []
  | .mk content checked none :: rest =>
      ((Item.mk content checked none).shown, none) :: Item.rows rest
  | .mk content checked (some nested) :: rest =>
      ((Item.mk content checked none).shown, some nested.tree) :: Item.rows rest

end

mutual

/-- No node of a list stands on a level further out than the list. -/
theorem ItemList.le_level_of_mem_preorder
    {level : Nat}
    {list : ItemList}
    {node : Node}
    (member : node ∈ list.preorder level) :
    level ≤ node.level := by
  cases list with
  | mk ordered items =>
      exact Item.le_level_of_mem_preorderAll member

/-- No node below items stands on a level further out than the items. -/
theorem Item.le_level_of_mem_preorderAll
    {level : Nat}
    {ordered leads : Bool}
    {items : List Item}
    {node : Node}
    (member : node ∈ Item.preorderAll level ordered leads items) :
    level ≤ node.level := by
  cases items with
  | nil =>
      cases member
  | cons item rest =>
      cases item with
      | mk content checked nested =>
          cases nested with
          | none =>
              rcases List.mem_cons.mp member with rfl | isLater
              · exact Nat.le_refl _
              · exact Item.le_level_of_mem_preorderAll isLater
          | some list =>
              rcases List.mem_cons.mp member with rfl | isBelow
              · exact Nat.le_refl _
              rcases List.mem_append.mp isBelow with isInside | isLater
              · exact Nat.le_of_succ_le (ItemList.le_level_of_mem_preorder isInside)
              · exact Item.le_level_of_mem_preorderAll isLater

end

/-- The preorder of items starts with the first of them, on their own level. -/
theorem Item.exists_preorderAll_eq_cons
    (level : Nat)
    (ordered leads : Bool)
    (item : Item)
    (rest : List Item) :
    ∃ node others,
      Item.preorderAll level ordered leads (item :: rest) = node :: others ∧
        node.level = level ∧ node.ordered = ordered := by
  obtain ⟨content, checked, nested⟩ := item
  cases nested with
  | none | some list =>
      exact ⟨_, _, rfl, rfl, rfl⟩

/-- The rows of items do not belong to a list inside an item in front of them. -/
theorem Item.not_lt_level_head?_rows
    (depth : Nat)
    (ordered leads : Bool)
    (items : List Item) :
    ∀ first ∈ ((Item.preorderAll (depth + 1) ordered leads items).map Node.row).head?,
      ¬ depth < first.level := by
  intro first isFirst
  cases items with
  | nil =>
      cases isFirst
  | cons item rest =>
      obtain ⟨node, others, shape, level, -⟩ :=
        Item.exists_preorderAll_eq_cons (depth + 1) ordered leads item rest
      rw [shape] at isFirst
      cases isFirst
      simp [Node.row, level]

mutual

/-- The rows of a list make that list. -/
theorem ItemList.ofRows?_preorder
    {list : ItemList}
    (formed : list.WellFormed)
    (depth : Nat) :
    ListTree.ofRows? ((list.preorder (depth + 1)).map Node.row) = some list.tree := by
  cases list with
  | mk ordered items =>
      obtain ⟨nonempty, itemsFormed⟩ := formed
      have sameRows := Item.rowsOf_preorderAll itemsFormed depth ordered true
      cases items with
      | nil =>
          exact (nonempty rfl).elim
      | cons item rest =>
          obtain ⟨node, others, shape, -, isOrdered⟩ :=
            Item.exists_preorderAll_eq_cons (depth + 1) ordered true item rest
          rw [ItemList.preorder, ListTree.ofRows?, sameRows, shape]
          simp [Node.row, isOrdered, ItemList.tree]

/-- The levels of the nodes say again which items stand below which. -/
theorem Item.rowsOf_preorderAll
    {items : List Item}
    (formed : Item.AllWellFormed items)
    (depth : Nat)
    (ordered leads : Bool) :
    ListTree.rowsOf ((Item.preorderAll (depth + 1) ordered leads items).map Node.row) =
      Item.rows items := by
  cases items with
  | nil =>
      rw [Item.preorderAll, List.map_nil, ListTree.rowsOf, Item.rows]
  | cons item rest =>
      obtain ⟨itemFormed, restFormed⟩ := formed
      have restSame := Item.rowsOf_preorderAll restFormed depth ordered false
      have stops := Item.not_lt_level_head?_rows depth ordered false rest
      cases item with
      | mk content checked nested =>
          cases nested with
          | none =>
              rw [Item.preorderAll, List.map_cons, Item.rows, ← restSame]
              exact ListTree.rowsOf_cons_append (List.forall_mem_nil _) stops
          | some list =>
              have deeper :
                  ∀ row ∈ (list.preorder (depth + 2)).map Node.row, depth < row.level := by
                rw [List.forall_mem_map]
                intro node member
                exact Nat.lt_sub_of_add_lt (ItemList.le_level_of_mem_preorder member)
              rw [Item.preorderAll, List.map_cons, List.map_append, Item.rows, ← restSame,
                ← ItemList.ofRows?_preorder itemFormed.2 (depth + 1)]
              exact ListTree.rowsOf_cons_append deeper stops

end

/-! ## Lists of a guide -/

theorem Typst.newline_not_mem_taskBox
    (checked : Option Bool) :
    '\n' ∉ taskBox checked := by
  cases checked with
  | none =>
      exact List.not_mem_nil
  | some ticked =>
      cases ticked with
      | true | false =>
          decide

/-- A row that shows no line feed is a single line. -/
theorem ListRow.newline_not_mem_line
    {row : ListRow}
    (noFeed : '\n' ∉ row.shown) :
    '\n' ∉ row.line := by
  rw [line, List.mem_append, not_or]
  constructor
  · intro isSpace
    cases List.eq_of_mem_replicate isSpace
  · cases row.ordered with
    | true | false =>
        simpa using noFeed

end Guidebook
