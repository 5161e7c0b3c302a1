import Guidebook.Proofs.Block.Indentation
import Guidebook.Proofs.Block.WellFormed
import Guidebook.Proofs.Block.Written

namespace Guidebook

/-!
# Lists that are written and read back

A list tree is written with an item on each line, in the order in which the items stand in
the tree, and two spaces in front of an item for each list around its own one.  The tree is
read back from these indents, as long as it is no deeper than lists nest.
-/

mutual

/-- An item as it is written: its text, its task box when it has one, and the list inside it. -/
inductive ItemSource where
  | mk (text : Text) (checked : Option Bool) (nested : Option ListSource)
  deriving Repr

/-- A list as it is written, numbered or not. -/
inductive ListSource where
  | mk (ordered : Bool) (items : List ItemSource)
  deriving Repr

end

/-- A text that is not taken for the box of a task. -/
structure IsItemText (text : Text) : Prop where
  nonempty : text ≠ []
  phrase : Text.Phrase text
  noBox : text.head? ≠ some '['

mutual

/-- The item that is to be read. -/
def ItemSource.toItem : ItemSource → Item
  | .mk text checked none => .mk (Span.read text) checked none
  | .mk text checked (some nested) => .mk (Span.read text) checked (some nested.toItemList)

/-- The list that is to be read. -/
def ListSource.toItemList : ListSource → ItemList
  | .mk ordered items => .mk ordered (ItemSource.toItems items)

/-- The items that are to be read. -/
def ItemSource.toItems : List ItemSource → List Item
  | [] => []
  | item :: rest => item.toItem :: ItemSource.toItems rest

end

mutual

/-- The text of an item can be told from a box, and so it is in the list inside. -/
def ItemSource.WellFormed : ItemSource → Prop
  | .mk text _ none => IsItemText text
  | .mk text _ (some nested) => IsItemText text ∧ nested.WellFormed

/-- A list has an item, and all of its items are well formed. -/
def ListSource.WellFormed : ListSource → Prop
  | .mk _ items => items ≠ [] ∧ ItemSource.AllWellFormed items

/-- All of some items are well formed. -/
def ItemSource.AllWellFormed : List ItemSource → Prop
  | [] => True
  | item :: rest => item.WellFormed ∧ ItemSource.AllWellFormed rest

end

/-- An item on its line: the number of lists around its own, and how its own is marked. -/
structure ItemRow where
  level : Nat
  ordered : Bool
  checked : Option Bool
  text : Text

namespace ItemRow

/-- The mark of a list in front of one of its items. -/
def mark (ordered : Bool) : Text :=
  if ordered then ['1', '.', ' '] else ['-', ' ']

/-- A task box, ticked or not. -/
def box : Option Bool → Text
  | none => []
  | some true => ['[', 'x', ']', ' ']
  | some false => ['[', ' ', ']', ' ']

/-- What stands behind the mark of an item. -/
def body (row : ItemRow) : Text :=
  box row.checked ++ row.text

/-- The line of an item. -/
def line (row : ItemRow) : Line :=
  List.replicate (2 * row.level) ' ' ++ (mark row.ordered ++ row.body)

/-- The item without the list inside it, as it stands on its line. -/
def entry (row : ItemRow) : Entry :=
  ⟨2 * row.level, row.ordered, .mk (Span.read row.text) row.checked none⟩

end ItemRow

/-- The text of an item. -/
def ItemSource.text : ItemSource → Text
  | .mk text _ _ => text

/-- Whether the task box of an item is ticked, when it has one. -/
def ItemSource.checked : ItemSource → Option Bool
  | .mk _ checked _ => checked

/-- The row of an item itself. -/
def ItemSource.row (level : Nat) (ordered : Bool) (item : ItemSource) : ItemRow :=
  ⟨level, ordered, item.checked, item.text⟩

mutual

/-- The rows of the list inside an item. -/
def ItemSource.inside (level : Nat) : ItemSource → List ItemRow
  | .mk _ _ none => []
  | .mk _ _ (some nested) => nested.rows (level + 1)

/-- The rows of a list with so many lists around it. -/
def ListSource.rows (level : Nat) : ListSource → List ItemRow
  | .mk ordered items => ItemSource.rowsAll level ordered items

/-- The rows of the items of a list, each with those of the list inside it. -/
def ItemSource.rowsAll (level : Nat) (ordered : Bool) : List ItemSource → List ItemRow
  | [] => []
  | item :: rest =>
      item.row level ordered :: (item.inside level ++ ItemSource.rowsAll level ordered rest)

end

/-- The lines of a list. -/
def ListSource.lines (list : ListSource) : List Line :=
  (list.rows 0).map ItemRow.line

/-! ## What a line of a list is read as -/

namespace ItemRow

variable
    {row : ItemRow}

/-- The body of a row ends with something other than a blank. -/
theorem finished_body
    (isText : IsItemText row.text) :
    Text.Finished row.body := by
  apply (isText.phrase.finished isText.nonempty).prepend
  rcases row.checked with _ | _ | _
  · exact List.not_mem_nil
  · decide
  · decide

/-- A body starts with a box or with the text, and so not with a blank. -/
theorem phrase_body
    (isText : IsItemText row.text) :
    Text.Phrase row.body := by
  apply (finished_body isText).phrase
  obtain ⟨level, ordered, checked, text⟩ := row
  rcases checked with _ | _ | _
  · exact isText.phrase.front
  · rintro first ⟨⟩
    decide
  · rintro first ⟨⟩
    decide

/-- The mark of a row and its body are a phrase, so the line is not trimmed. -/
theorem phrase_mark_append
    (isText : IsItemText row.text) :
    Text.Phrase (mark row.ordered ++ row.body) := by
  rcases row.ordered with _ | _
  · exact ((finished_body isText).prepend (by decide)).phrase (by rintro first ⟨⟩; decide)
  · exact ((finished_body isText).prepend (by decide)).phrase (by rintro first ⟨⟩; decide)

/-- The line of a row ends with something other than a blank. -/
theorem finished_line
    (isText : IsItemText row.text) :
    Text.Finished row.line := by
  apply ((phrase_mark_append isText).finished _).prepend
  · intro isSpace
    cases List.eq_of_mem_replicate isSpace
  · rcases row.ordered with _ | _
    · exact List.cons_ne_nil _ _
    · exact List.cons_ne_nil _ _

/-- The line of an item is an item that is marked like its list. -/
theorem of_line
    (isText : IsItemText row.text) :
    LineKind.of row.line = .item row.ordered row.body := by
  have trimmed : row.line.trim = mark row.ordered ++ row.body :=
    (Text.trim_blank_append (Text.isBlankLine_replicate_space _) _).trans
      (phrase_mark_append isText).trim_eq
  have kept : Text.trimStart row.body = row.body :=
    Text.trimStart_eq_self (phrase_body isText).front
  rw [LineKind.of, trimmed]
  rcases row.ordered with _ | _
  · simp [mark, LineKind.ofTrimmed, LineKind.isRule, rowCells?, LineKind.heading?,
      LineKind.fence?, Text.runLength, LineKind.item?, kept]
  · have digit : isDecimalDigit '1' = true := by
      decide
    have point : isDecimalDigit '.' = false := by
      decide
    have blank : isBlank ' ' := rfl
    simp [mark, LineKind.ofTrimmed, LineKind.isRule, rowCells?, LineKind.heading?,
      LineKind.fence?, Text.runLength, LineKind.item?, kept, digit, point, blank]

/-- The line of a row is indented by two blanks for each level. -/
theorem indent_line
    (row : ItemRow) :
    row.line.indent = 2 * row.level := by
  have atMargin : Text.indent (mark row.ordered ++ row.body) = 0 := by
    rcases row.ordered with _ | _
    · rfl
    · rfl
  rw [line, Text.indent_append_of_blank (Text.isBlankLine_replicate_space _), atMargin,
    List.length_replicate, Nat.add_zero]

/-- Only a text in brackets is taken for a box. -/
theorem taskBox?_eq_none
    {text : Text}
    (noBox : text.head? ≠ some '[') :
    taskBox? text = none := by
  unfold taskBox?
  split
  · exact (noBox rfl).elim
  · rfl

/-- The box and the text are told apart again. -/
theorem ofBody_body
    (isText : IsItemText row.text) :
    Item.ofBody row.body = .mk (Span.read row.text) row.checked none := by
  have kept : Text.trimStart row.text = row.text :=
    Text.trimStart_eq_self isText.phrase.front
  have noBox := taskBox?_eq_none isText.noBox
  have blank : isBlank ' ' := rfl
  obtain ⟨level, ordered, checked, text⟩ := row
  rcases checked with _ | _ | _
  · simp [body, box, Item.ofBody, noBox]
  · simp [body, box, Item.ofBody, taskBox?, blank, kept]
  · simp [body, box, Item.ofBody, taskBox?, blank, kept]

end ItemRow

/-! ## The rows of a list -/

mutual

/-- The rows below an item stand on deeper levels. -/
theorem ItemSource.lt_level_of_mem_inside
    {level : Nat}
    {item : ItemSource}
    {row : ItemRow}
    (member : row ∈ item.inside level) :
    level < row.level := by
  cases item with
  | mk text checked nested =>
      cases nested with
      | none =>
          cases member
      | some nested =>
          cases nested with
          | mk ordered items =>
              exact le_level_of_mem_rowsAll member

/-- No row of some items stands on a level further out than theirs. -/
theorem ItemSource.le_level_of_mem_rowsAll
    {level : Nat}
    {ordered : Bool}
    {items : List ItemSource}
    {row : ItemRow}
    (member : row ∈ rowsAll level ordered items) :
    level ≤ row.level := by
  cases items with
  | nil =>
      cases member
  | cons item rest =>
      rcases List.mem_cons.mp member with rfl | isLater
      · exact le_rfl
      · rcases List.mem_append.mp isLater with isInside | inRest
        · exact (lt_level_of_mem_inside isInside).le
        · exact le_level_of_mem_rowsAll inRest

end

theorem ItemSource.WellFormed.isText
    {item : ItemSource}
    (wellFormed : item.WellFormed) :
    IsItemText item.text := by
  obtain ⟨text, checked, _ | nested⟩ := item
  · exact wellFormed
  · exact wellFormed.1

mutual

theorem ItemSource.isText_of_mem_inside
    {level : Nat}
    {item : ItemSource}
    (wellFormed : item.WellFormed)
    {row : ItemRow}
    (member : row ∈ item.inside level) :
    IsItemText row.text := by
  cases item with
  | mk text checked nested =>
      cases nested with
      | none =>
          cases member
      | some nested =>
          cases nested with
          | mk ordered items =>
              exact isText_of_mem_rowsAll wellFormed.2.2 member

/-- Each row of well-formed items shows a text that an item can have. -/
theorem ItemSource.isText_of_mem_rowsAll
    {level : Nat}
    {ordered : Bool}
    {items : List ItemSource}
    (wellFormed : AllWellFormed items)
    {row : ItemRow}
    (member : row ∈ rowsAll level ordered items) :
    IsItemText row.text := by
  cases items with
  | nil =>
      cases member
  | cons item rest =>
      rcases List.mem_cons.mp member with rfl | isLater
      · exact wellFormed.1.isText
      · rcases List.mem_append.mp isLater with isInside | inRest
        · exact isText_of_mem_inside wellFormed.1 isInside
        · exact isText_of_mem_rowsAll wellFormed.2 inRest

end

/-! ## Nesting the rows again -/

namespace ItemList

variable
    {levels indent : Nat}
    {entry : Entry}

/-- An entry that is indented no further than the list is its next item. -/
theorem nest_cons_of_le
    (current : Item)
    (near : entry.indent ≤ indent)
    (rest : List Entry) :
    nest levels indent current (entry :: rest) =
      current :: nest levels indent entry.item rest := by
  rw [nest, if_neg fun deeper => near.not_gt deeper.1]

/-- The items from an entry on, when those behind another item are known. -/
theorem nest_of_nest_cons
    {current : Item}
    (near : entry.indent ≤ indent)
    {rest : List Entry}
    {items : List Item}
    (known : nest levels indent current (entry :: rest) = current :: items) :
    nest levels indent entry.item rest = items :=
  List.tail_eq_of_cons_eq ((nest_cons_of_le current near rest).symm.trans known)

/-- An entry that is indented further opens a list, which ends before the first entry that is not. -/
theorem nest_cons_of_lt
    (current : Item)
    (further : indent < entry.indent)
    (mayNest : 0 < levels)
    {within outside : List Entry}
    (isWithin : ∀ other ∈ within, entry.indent ≤ other.indent)
    (isOutside : ∀ other ∈ outside.head?, other.indent < entry.indent) :
    nest levels indent current (entry :: (within ++ outside)) =
      nest levels indent
        (current.attach (.mk entry.ordered (nest (levels - 1) entry.indent entry.item within)))
        outside := by
  have passes : ∀ other ∈ within, decide (entry.indent ≤ other.indent) := by
    simpa using isWithin
  have stops : ∀ other ∈ outside.head?, ¬ decide (entry.indent ≤ other.indent) := by
    simpa using isOutside
  obtain ⟨taken, left⟩ := takeWhile_append_of_stops passes stops
  rw [nest, if_pos ⟨further, mayNest⟩]
  simp only [taken, left]

end ItemList

/-- No entry of some items is indented less than they are. -/
theorem ItemSource.le_indent_of_mem_rowsAll
    (level : Nat)
    (ordered : Bool)
    (items : List ItemSource)
    {entry : Entry}
    (member : entry ∈ (rowsAll level ordered items).map ItemRow.entry) :
    2 * level ≤ entry.indent := by
  obtain ⟨row, isRow, rfl⟩ := List.mem_map.mp member
  exact Nat.mul_le_mul_left 2 (le_level_of_mem_rowsAll isRow)

/-- The first entry of some items is indented as they are. -/
theorem ItemSource.indent_head?_rowsAll
    (level : Nat)
    (ordered : Bool)
    (items : List ItemSource) :
    ∀ entry ∈ ((rowsAll level ordered items).map ItemRow.entry).head?,
      entry.indent ≤ 2 * level := by
  cases items with
  | nil =>
      nofun
  | cons item rest =>
      rintro entry ⟨⟩
      exact le_rfl

mutual

/--
The rows of the list inside an item are nested in that item, and the entries behind
them are left to the lists around it.
-/
theorem ItemSource.nest_inside
    {level levels : Nat}
    (ordered : Bool)
    {item : ItemSource}
    (wellFormed : item.WellFormed)
    (shallow : item.toItem.depth ≤ levels)
    {outside : List Entry}
    (isOutside : ∀ entry ∈ outside.head?, entry.indent ≤ 2 * level) :
    ItemList.nest levels (2 * level) (item.row level ordered).entry.item
        ((item.inside level).map ItemRow.entry ++ outside) =
      ItemList.nest levels (2 * level) item.toItem outside := by
  obtain ⟨text, checked, _ | ⟨own, _ | ⟨first, rest⟩⟩⟩ := item
  · rfl
  · exact (wellFormed.2.1 rfl).elim
  · obtain ⟨fewer, rfl⟩ : ∃ fewer, levels = fewer + 1 :=
      Nat.exists_eq_add_of_le' (Nat.one_le_of_lt shallow)
    -- The first row opens the list, and the others are indented at least as far and stay in it.
    let within : List Entry :=
      (first.inside (level + 1) ++ rowsAll (level + 1) own rest).map ItemRow.entry
    have known :
        ItemList.nest fewer (2 * (level + 1)) first.toItem
            ((first.row (level + 1) own).entry :: within) =
          first.toItem :: toItems (first :: rest) :=
      nest_rowsAll own first.toItem wellFormed.2.2 (Nat.le_of_succ_le_succ shallow)
    have near : (first.row (level + 1) own).entry.indent ≤ 2 * (level + 1) := le_rfl
    have nested := ItemList.nest_of_nest_cons near known
    have isWithin :
        ∀ entry ∈ within, (first.row (level + 1) own).entry.indent ≤ entry.indent :=
      fun entry member =>
        le_indent_of_mem_rowsAll (level + 1) own (first :: rest) (List.mem_cons_of_mem _ member)
    have further : 2 * level < (first.row (level + 1) own).entry.indent :=
      Nat.mul_lt_mul_of_pos_left (Nat.lt_succ_self level) Nat.two_pos
    have mayNest : 0 < fewer + 1 := fewer.succ_pos
    calc
      ItemList.nest (fewer + 1) (2 * level) (.mk (Span.read text) checked none)
            ((first.row (level + 1) own).entry :: (within ++ outside))
          = ItemList.nest (fewer + 1) (2 * level)
              (.mk (Span.read text) checked (some (.mk (first.row (level + 1) own).entry.ordered
                (ItemList.nest fewer (first.row (level + 1) own).entry.indent
                  (first.row (level + 1) own).entry.item within)))) outside :=
        ItemList.nest_cons_of_lt _ further mayNest isWithin
          fun other isFirst => (isOutside other isFirst).trans_lt further
      _ = ItemList.nest (fewer + 1) (2 * level)
            (.mk (Span.read text) checked (some (.mk own (toItems (first :: rest))))) outside := by
        rw [← nested]
        rfl

/-- The rows of some items make these items behind the one that comes before them. -/
theorem ItemSource.nest_rowsAll
    {level levels : Nat}
    (ordered : Bool)
    (current : Item)
    {items : List ItemSource}
    (wellFormed : AllWellFormed items)
    (shallow : Item.depthAll (toItems items) ≤ levels) :
    ItemList.nest levels (2 * level) current ((rowsAll level ordered items).map ItemRow.entry) =
      current :: toItems items := by
  cases items with
  | nil =>
      simp [rowsAll, toItems, ItemList.nest]
  | cons item rest =>
      obtain ⟨itemFormed, restFormed⟩ := wellFormed
      obtain ⟨itemShallow, restShallow⟩ := Nat.max_le.mp shallow
      have near : (item.row level ordered).entry.indent ≤ 2 * level := le_rfl
      calc
        ItemList.nest levels (2 * level) current
              ((rowsAll level ordered (item :: rest)).map ItemRow.entry)
            = current :: ItemList.nest levels (2 * level) (item.row level ordered).entry.item
                ((item.inside level).map ItemRow.entry ++
                  (rowsAll level ordered rest).map ItemRow.entry) := by
          rw [rowsAll, List.map_cons, List.map_append, ItemList.nest_cons_of_le current near]
        _ = current :: ItemList.nest levels (2 * level) item.toItem
              ((rowsAll level ordered rest).map ItemRow.entry) :=
          congrArg (List.cons current)
            (nest_inside ordered itemFormed itemShallow (indent_head?_rowsAll level ordered rest))
        _ = current :: toItems (item :: rest) :=
          congrArg (List.cons current) (nest_rowsAll ordered item.toItem restFormed restShallow)

end

/-! ## Reading a list -/

namespace ItemRow

/-- A row as a list sees it. -/
def indented (row : ItemRow) : Indented :=
  ⟨2 * row.level, .item row.ordered row.body⟩

/-- The lines of rows keep their indents. -/
theorem ofLines_map_line
    {rows : List ItemRow}
    (isText : ∀ row ∈ rows, IsItemText row.text) :
    Indented.ofLines (rows.map line) = rows.map indented := by
  induction rows with
  | nil =>
      rfl
  | cons row rest inductionHypothesis =>
      obtain ⟨rowIsText, restIsText⟩ := List.forall_mem_cons.mp isText
      have sameRow : Indented.ofLine row.line = row.indented := by
        rw [Indented.ofLine, indent_line, of_line rowIsText]
        rfl
      rw [List.map_cons, Indented.ofLines_cons (finished_line rowIsText).not_isBlankLine, sameRow,
        inductionHypothesis restIsText, List.map_cons]

/-- The line of a row is read as its entry. -/
theorem entryAt?_indented
    {row : ItemRow}
    (isText : IsItemText row.text) :
    row.indented.entryAt? = some row.entry := by
  rw [indented, Indented.entryAt?]
  simp only [ofBody_body isText]
  rfl

/-- The lines of rows are read as their entries. -/
theorem filterMap_entryAt?_indented
    {rows : List ItemRow}
    (isText : ∀ row ∈ rows, IsItemText row.text) :
    (rows.map indented).filterMap Indented.entryAt? = rows.map entry := by
  induction rows with
  | nil =>
      rfl
  | cons row rest inductionHypothesis =>
      obtain ⟨rowIsText, restIsText⟩ := List.forall_mem_cons.mp isText
      simp [entryAt?_indented rowIsText, inductionHypothesis restIsText]

end ItemRow

/-- Rows of which the first stands at the margin are all read into one list. -/
theorem Block.ofLines_map_line
    {first : ItemRow}
    (atMargin : first.level = 0)
    {others : List ItemRow}
    (isText : ∀ row ∈ first :: others, IsItemText row.text) :
    ofLines ((first :: others).map ItemRow.line) =
      [.list (ItemList.ofEntries first.entry (others.map ItemRow.entry))] := by
  obtain ⟨firstIsText, othersAreTexts⟩ := List.forall_mem_cons.mp isText
  have seen := ItemRow.ofLines_map_line isText
  calc
    ofLines ((first :: others).map ItemRow.line)
        = (Indented.list? ((first :: others).map ItemRow.indented)).toList := by
      rw [← seen]
      apply ofLines_eq_list?
      · rw [seen, List.forall_mem_map]
        exact fun row _ => rfl
      · rw [seen]
        rintro row ⟨⟩ line -
        simp [ItemRow.indented, atMargin]
    _ = [.list (ItemList.ofEntries first.entry (others.map ItemRow.entry))] := by
      rw [List.map_cons, Indented.list?, ItemRow.entryAt?_indented firstIsText,
        ItemRow.filterMap_entryAt?_indented othersAreTexts]
      rfl

/-- The rows of a list that is no deeper than lists nest make this list. -/
theorem ItemSource.ofEntries_rowsAll
    {ordered : Bool}
    {first : ItemSource}
    {rest : List ItemSource}
    (wellFormed : AllWellFormed (first :: rest))
    (shallow : Item.depthAll (toItems (first :: rest)) < ItemList.maxNesting) :
    ItemList.ofEntries (first.row 0 ordered).entry
        ((first.inside 0 ++ rowsAll 0 ordered rest).map ItemRow.entry) =
      .mk ordered (toItems (first :: rest)) := by
  have known :
      ItemList.nest (ItemList.maxNesting - 1) (2 * 0) first.toItem
          ((rowsAll 0 ordered (first :: rest)).map ItemRow.entry) =
        first.toItem :: toItems (first :: rest) :=
    nest_rowsAll ordered first.toItem wellFormed (Nat.le_sub_one_of_lt shallow)
  have near : (first.row 0 ordered).entry.indent ≤ 2 * 0 := le_rfl
  have nested := ItemList.nest_of_nest_cons near known
  rw [ItemList.ofEntries, ← nested]
  rfl

/--
A list tree that is no deeper than lists nest is read back as it was written: the same
items with the same boxes in the same lists, marked the same.
-/
theorem Block.read_lines_list
    {list : ListSource}
    (wellFormed : list.WellFormed)
    (shallow : list.toItemList.depth ≤ ItemList.maxNesting) :
    read (Text.joinLines list.lines) = [.list list.toItemList] := by
  obtain ⟨ordered, _ | ⟨first, rest⟩⟩ := list
  · exact (wellFormed.1 rfl).elim
  · let others := first.inside 0 ++ ItemSource.rowsAll 0 ordered rest
    have isText : ∀ row ∈ first.row 0 ordered :: others, IsItemText row.text :=
      fun row => ItemSource.isText_of_mem_rowsAll wellFormed.2
    have atMargin : ∀ character ∈ (first.row 0 ordered).line.head?, ¬ isBlank character :=
      (ItemRow.phrase_mark_append (isText _ List.mem_cons_self)).front
    have finished : ∀ line ∈ (first.row 0 ordered :: others).map ItemRow.line,
        Text.Finished line :=
      List.forall_mem_map.mpr fun row member => ItemRow.finished_line (isText row member)
    calc
      read (Text.joinLines ((first.row 0 ordered :: others).map ItemRow.line))
          = ofLines ((first.row 0 ordered :: others).map ItemRow.line) :=
        read_joinLines atMargin finished
      _ = [.list (ItemList.ofEntries (first.row 0 ordered).entry (others.map ItemRow.entry))] :=
        ofLines_map_line rfl isText
      _ = [.list (.mk ordered (ItemSource.toItems (first :: rest)))] :=
        congrArg (fun made => [Block.list made])
          (ItemSource.ofEntries_rowsAll wellFormed.2 (Nat.lt_of_succ_le shallow))

/-- A numbered list whose second item closes the two lists inside the first at once. -/
theorem Block.read_lines_list_dedent :
    let deepest : ListSource := .mk true [.mk ['1', '.', ' ', 'c'] none none]
    let inner : ListSource := .mk false [.mk ['b'] (some false) (some deepest)]
    let list : ListSource := .mk true [.mk ['a'] (some true) (some inner), .mk ['d', ']'] none none]
    list.WellFormed ∧ list.toItemList.depth ≤ ItemList.maxNesting ∧
      read (Text.joinLines list.lines) = [.list list.toItemList] := by
  intro deepest inner list
  have deepestFormed : deepest.WellFormed :=
    ⟨List.cons_ne_nil _ _, ⟨by decide, by decide, by decide⟩, trivial⟩
  have innerFormed : inner.WellFormed :=
    ⟨List.cons_ne_nil _ _, ⟨⟨by decide, by decide, by decide⟩, deepestFormed⟩, trivial⟩
  have wellFormed : list.WellFormed :=
    ⟨List.cons_ne_nil _ _, ⟨⟨by decide, by decide, by decide⟩, innerFormed⟩,
      ⟨by decide, by decide, by decide⟩, trivial⟩
  have shallow : list.toItemList.depth ≤ ItemList.maxNesting := by
    decide
  exact ⟨wellFormed, shallow, read_lines_list wellFormed shallow⟩

end Guidebook
