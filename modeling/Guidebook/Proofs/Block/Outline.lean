import Guidebook.Block.Reading
import Mathlib.Data.List.ModifyLast
import Mathlib.Data.List.Forall2
import Mathlib.Data.List.ReduceOption
import Mathlib.Data.List.TakeWhile

namespace Guidebook

/-!
# Lists as outlines

A list can be read in one pass that remembers the indents of the lists that are
open.  An item closes the lists that are indented further than it is, opens one
if it is indented further than those that are left, and then stands on the level
that their number tells.  The list that is read is the outline that these levels
describe: each item lies under the last one of the level above.
-/

/-- An item as it stands in a list, without what is nested in it. -/
structure Node where
  level : Nat
  /-- Whether the list that the item stands in is numbered. -/
  ordered : Bool
  /-- Whether it is the first item of that list. -/
  leads : Bool
  item : Item

mutual

/-- The items of a list and of the lists inside it, in the order in which they are read. -/
def ItemList.preorder (level : Nat) : ItemList → List Node
  | .mk ordered items => Item.preorderAll level ordered true items

/-- Items of one list, and those of the lists inside them, in the order in which they are read. -/
def Item.preorderAll (level : Nat) (ordered leads : Bool) : List Item → List Node
  | [] => []
  | .mk content checked none :: rest =>
      ⟨level, ordered, leads, .mk content checked none⟩ ::
        Item.preorderAll level ordered false rest
  | .mk content checked (some nested) :: rest =>
      ⟨level, ordered, leads, .mk content checked none⟩ ::
        (nested.preorder (level + 1) ++ Item.preorderAll level ordered false rest)

end

/-- Changes the items nested in an item; if there are none yet, the list of them is new. -/
def Item.mapNested (ordered : Bool) (change : List Item → List Item) : Item → Item
  | .mk content checked none => .mk content checked (some (.mk ordered (change [])))
  | .mk content checked (some (.mk own items)) =>
      .mk content checked (some (.mk own (change items)))

/-- Nothing is nested in an item. -/
def Item.IsBare (item : Item) : Prop :=
  ∃ content checked, item = .mk content checked none

/-- The item on a line has no list below it yet. -/
theorem Item.isBare_ofBody
    (body : Text) :
    (ofBody body).IsBare := by
  rw [ofBody]
  split
  · exact ⟨_, _, rfl⟩
  · exact ⟨_, _, rfl⟩

/-- A value that is taken is that of one of the lines. -/
theorem mem_takeLeading
    {value? : Line → Option α}
    {lines : List Line}
    {value : α}
    (member : value ∈ (takeLeading value? lines).1) :
    ∃ line ∈ lines, value? line = some value := by
  induction lines with
  | nil =>
      cases member
  | cons line rest inductionHypothesis =>
      rw [takeLeading] at member
      split at member
      · cases member
      · next other found =>
          rcases List.mem_cons.mp member with isFirst | isLater
          · exact ⟨line, List.mem_cons_self, isFirst ▸ found⟩
          · obtain ⟨later, isLine, isValue⟩ := inductionHypothesis isLater
            exact ⟨later, List.mem_cons_of_mem line isLine, isValue⟩

/-- An entry is read from the text behind a marker, and indented as far as the list. -/
theorem exists_body_of_entryOf?
    {base : Nat}
    {line : Line}
    {entry : Entry}
    (found : entryOf? base line = some (some entry)) :
    base ≤ entry.indent ∧
      ∃ ordered body, LineKind.of line = .item ordered body ∧ entry.item = Item.ofBody body := by
  rw [entryOf?] at found
  split at found
  · simp at found
  · next ordered body isItem =>
      rw [Option.ite_none_right_eq_some] at found
      obtain ⟨further, isEntry⟩ := found
      simp only [Option.some.injEq] at isEntry
      rw [← isEntry]
      exact ⟨further, ordered, body, isItem, rfl⟩
  · simp at found

/-- The entries that a list takes are bare items that are indented as far as the list. -/
theorem of_mem_takeLeading_entryOf?
    {base : Nat}
    {lines : List Line}
    {entry : Entry}
    (member : entry ∈ (takeLeading (entryOf? base) lines).1.reduceOption) :
    base ≤ entry.indent ∧ entry.item.IsBare := by
  obtain ⟨line, -, found⟩ := mem_takeLeading (List.reduceOption_mem_iff.mp member)
  obtain ⟨further, _, body, -, isItem⟩ := exists_body_of_entryOf? found
  exact ⟨further, isItem ▸ Item.isBare_ofBody body⟩

namespace Outline

/-- An entry and the level it stands on. -/
structure Placed where
  level : Nat
  entry : Entry

/--
The indents of the open lists, the innermost first, after an item has closed those
that are indented further and opened one if it is indented further than the rest.
-/
def settle (opened : List Nat) (indent : Nat) : List Nat :=
  let left := opened.dropWhile (indent < ·)
  if left.head?.any (· < indent) ∧ left.length < ItemList.maxNesting then indent :: left
  else left

/--
The entries of a list with their levels, and the lines behind the list: it ends at
a line that is neither blank nor an item, and at an item that closes all open lists.
-/
def run (opened : List Nat) : List Line → List Placed × List Line
  | [] => ([], [])
  | line :: rest =>
      match LineKind.of line with
      | .blank => run opened rest
      | .item ordered body =>
          let left := settle opened line.indent
          if left.isEmpty then ([], line :: rest)
          else
            let (placed, others) := run left rest
            (⟨left.length, ⟨line.indent, ordered, Item.ofBody body⟩⟩ :: placed, others)
      | _ => ([], line :: rest)

/-- Hangs an entry under the last of some items, so many levels down. -/
def hang (entry : Entry) : Nat → List Item → List Item
  | 0, items => items ++ [entry.item]
  | depth + 1, items => items.modifyLast (Item.mapNested entry.ordered (hang entry depth))

/-- Hangs entries one after the other under items that stand on a given level. -/
def hangAll (level : Nat) (items : List Item) (placed : List Placed) : List Item :=
  placed.foldl (fun items next => hang next.entry (next.level - level) items) items

/-- The list that some entries with their levels describe. -/
def build (ordered : Bool) (placed : List Placed) : ItemList :=
  .mk ordered (hangAll 1 [] placed)

/-- A node is what an entry has become: if it leads a list, the entry tells that list's marks. -/
structure Shows (node : Node) (placed : Placed) : Prop where
  level : node.level = placed.level
  item : node.item = placed.entry.item
  ordered : node.leads → node.ordered = placed.entry.ordered

/-! ## Open lists -/

/-- Lists that are further in than an entry are closed before it. -/
theorem settle_of_deeper
    {deeper : List Nat}
    {indent : Nat}
    (closed : ∀ other ∈ deeper, indent < other)
    (opened : List Nat) :
    settle (deeper ++ opened) indent = settle opened indent := by
  rw [settle, settle, List.dropWhile_append_of_pos (by simpa using closed)]

/-- An item that is indented as far as a list leaves that list open. -/
theorem settle_of_le
    {base indent : Nat}
    {inner : List Nat}
    (outer : List Nat)
    (deeper : ∀ other ∈ inner, base ≤ other)
    (further : base ≤ indent) :
    ∃ left, settle (inner ++ base :: outer) indent = left ++ base :: outer ∧
      ∀ other ∈ left, base ≤ other := by
  have kept :
      (inner ++ base :: outer).dropWhile (indent < ·) =
        inner.dropWhile (indent < ·) ++ base :: outer := by
    rw [List.dropWhile_append]
    split
    · next closed =>
        rw [List.isEmpty_iff.mp closed, List.dropWhile_cons_of_neg (by simpa using further)]
        rfl
    · rfl
  have deeperLeft : ∀ other ∈ inner.dropWhile (indent < ·), base ≤ other :=
    fun other member => deeper other ((List.dropWhile_sublist _).subset member)
  rw [settle, kept]
  split
  · exact ⟨indent :: inner.dropWhile (indent < ·), rfl,
      List.forall_mem_cons.mpr ⟨further, deeperLeft⟩⟩
  · exact ⟨inner.dropWhile (indent < ·), rfl, deeperLeft⟩

/-- An item that is indented further than the innermost list opens one, if there is room. -/
theorem settle_of_lt
    {base indent : Nat}
    {outer : List Nat}
    (further : base < indent)
    (room : outer.length + 1 < ItemList.maxNesting) :
    settle (base :: outer) indent = indent :: base :: outer := by
  have kept : (base :: outer).dropWhile (indent < ·) = base :: outer :=
    List.dropWhile_cons_of_neg (by simpa using Nat.le_of_lt further)
  rw [settle, kept, if_pos]
  simp [further, room]

/-- An entry that may open no deeper list joins the innermost one that is open. -/
theorem settle_of_full
    {base indent : Nat}
    {outer : List Nat}
    (further : base ≤ indent)
    (full : ¬ (base < indent ∧ outer.length + 1 < ItemList.maxNesting)) :
    settle (base :: outer) indent = base :: outer := by
  have kept : (base :: outer).dropWhile (indent < ·) = base :: outer :=
    List.dropWhile_cons_of_neg (by simpa using further)
  rw [settle, kept, if_neg]
  simpa using full

/-- An entry less indented than a list is so than all lists in it. -/
theorem lt_of_mem_append_singleton
    {base indent : Nat}
    {inner : List Nat}
    (deeper : ∀ other ∈ inner, base ≤ other)
    (less : indent < base) :
    ∀ other ∈ inner ++ [base], indent < other := by
  intro other member
  rcases List.mem_append.mp member with isInner | isBase
  · exact Nat.lt_of_lt_of_le less (deeper other isInner)
  · rw [List.mem_singleton.mp isBase]
    exact less

/-- An item that is indented less than all open lists closes them. -/
theorem settle_eq_nil
    {opened : List Nat}
    {indent : Nat}
    (closed : ∀ other ∈ opened, indent < other) :
    settle opened indent = [] := by
  have nothing := settle_of_deeper closed []
  rwa [List.append_nil] at nothing

/-- An entry opens at most one list. -/
theorem length_settle_le
    (opened : List Nat)
    (indent : Nat) :
    (settle opened indent).length ≤ opened.length + 1 := by
  have fewer : (opened.dropWhile (indent < ·)).length ≤ opened.length :=
    (List.dropWhile_sublist _).length_le
  rw [settle]
  split
  · exact Nat.succ_le_succ fewer
  · exact Nat.le_succ_of_le fewer

/-! ## Levels of entries -/

/-- Entries, none of which closes all open lists, with their levels. -/
def place (opened : List Nat) : List Entry → List Placed
  | [] => []
  | entry :: rest =>
      ⟨(settle opened entry.indent).length, entry⟩ :: place (settle opened entry.indent) rest

/-- The levels of entries that stay inside a list are below that of the list. -/
theorem lt_level_of_mem_place
    {base : Nat}
    (inner : List Nat)
    {outer : List Nat}
    {entries : List Entry}
    (deeper : ∀ other ∈ inner, base ≤ other)
    (inside : ∀ entry ∈ entries, base ≤ entry.indent)
    {placed : Placed}
    (member : placed ∈ place (inner ++ base :: outer) entries) :
    outer.length < placed.level := by
  induction entries generalizing inner with
  | nil =>
      cases member
  | cons entry rest inductionHypothesis =>
      obtain ⟨entryInside, restInside⟩ := List.forall_mem_cons.mp inside
      obtain ⟨left, isLeft, leftDeeper⟩ := settle_of_le outer deeper entryInside
      rw [place, isLeft] at member
      rcases List.mem_cons.mp member with isEntry | isLater
      · rw [isEntry]
        simp only [List.length_append, List.length_cons]
        omega
      · exact inductionHypothesis left leftDeeper restInside isLater

/-- An entry outside of a list finds the lists open that were so before that list. -/
theorem place_append
    {base : Nat}
    (inner : List Nat)
    {outer : List Nat}
    {inside outside : List Entry}
    (deeper : ∀ other ∈ inner, base ≤ other)
    (isInside : ∀ entry ∈ inside, base ≤ entry.indent)
    (isOutside : ∀ entry, outside.head? = some entry → entry.indent < base) :
    place (inner ++ base :: outer) (inside ++ outside) =
      place (inner ++ base :: outer) inside ++ place outer outside := by
  induction inside generalizing inner with
  | nil =>
      cases outside with
      | nil =>
          rfl
      | cons entry rest =>
          have closed := lt_of_mem_append_singleton deeper (isOutside entry rfl)
          rw [List.nil_append, place, place, place, List.append_cons, settle_of_deeper closed]
          rfl
  | cons entry rest inductionHypothesis =>
      obtain ⟨entryInside, restInside⟩ := List.forall_mem_cons.mp isInside
      obtain ⟨left, isLeft, leftDeeper⟩ := settle_of_le outer deeper entryInside
      rw [List.cons_append, place, place, isLeft,
        inductionHypothesis left leftDeeper restInside]
      rfl

/--
The entries that a list takes, with their levels, and the lines that it leaves are
those of the pass with open lists.
-/
theorem run_eq_place
    (base : Nat)
    (inner : List Nat)
    (deeper : ∀ other ∈ inner, base ≤ other)
    (lines : List Line) :
    run (inner ++ [base]) lines =
      (place (inner ++ [base]) (takeLeading (entryOf? base) lines).1.reduceOption,
        (takeLeading (entryOf? base) lines).2) := by
  induction lines generalizing inner with
  | nil =>
      rfl
  | cons line rest inductionHypothesis =>
      rw [run, takeLeading, entryOf?]
      cases kind : LineKind.of line with
      | heading | rule | row | quote | fence | command | prose =>
          rfl
      | blank =>
          rw [inductionHypothesis inner deeper]
          rfl
      | item ordered body =>
          by_cases further : base ≤ line.indent
          · obtain ⟨left, isLeft, leftDeeper⟩ := settle_of_le [] deeper further
            simp only [isLeft, further, ↓reduceIte, inductionHypothesis left leftDeeper,
              List.reduceOption_cons_of_some]
            rw [place, isLeft]
            simp
          · have closed := lt_of_mem_append_singleton deeper (Nat.lt_of_not_le further)
            simp [settle_eq_nil closed, further, List.reduceOption_nil, place]

/-! ## Hanging entries -/

theorem hangAll_cons
    (level : Nat)
    (items : List Item)
    (next : Placed)
    (placed : List Placed) :
    hangAll level items (next :: placed) =
      hangAll level (hang next.entry (next.level - level) items) placed :=
  rfl

/-- Entries are hung one after the other. -/
theorem hangAll_append
    (level : Nat)
    (items : List Item)
    (first second : List Placed) :
    hangAll level items (first ++ second) = hangAll level (hangAll level items first) second :=
  List.foldl_append

/-- Entries are hung under the last item, and the items before it do not change. -/
theorem hang_concat
    (entry : Entry)
    (depth : Nat)
    (before : List Item)
    (last : Item) :
    hang entry depth (before ++ [last]) = before ++ hang entry depth [last] := by
  cases depth with
  | zero =>
      rw [hang, hang, List.append_assoc]
  | succ depth =>
      have alone := List.modifyLast_concat (Item.mapNested entry.ordered (hang entry depth)) last []
      rw [List.nil_append] at alone
      rw [hang, hang, List.modifyLast_concat, alone]
      rfl

/-- Hanging an entry leaves an item that is last. -/
theorem exists_hang_eq_concat
    (entry : Entry)
    (depth : Nat)
    (last : Item) :
    ∃ before other, hang entry depth [last] = before ++ [other] := by
  cases depth with
  | zero =>
      exact ⟨[last], entry.item, rfl⟩
  | succ depth =>
      have alone := List.modifyLast_concat (Item.mapNested entry.ordered (hang entry depth)) last []
      exact ⟨[], _, alone⟩

/-- Entries are hung below the last item only, or behind it. -/
theorem hangAll_concat
    (level : Nat)
    (before : List Item)
    (last : Item)
    (placed : List Placed) :
    hangAll level (before ++ [last]) placed = before ++ hangAll level [last] placed := by
  induction placed generalizing before last with
  | nil =>
      rfl
  | cons next placed inductionHypothesis =>
      obtain ⟨others, other, hung⟩ := exists_hang_eq_concat next.entry (next.level - level) last
      rw [hangAll_cons, hangAll_cons, hang_concat, hung, ← List.append_assoc,
        inductionHypothesis, inductionHypothesis, List.append_assoc]

/-- Entries on deeper levels go into the list that is nested in the last item. -/
theorem hangAll_deeper
    {level : Nat}
    {placed : List Placed}
    (deeper : ∀ next ∈ placed, level < next.level)
    (content : List Span)
    (checked : Option Bool)
    (own : Bool)
    (items : List Item) :
    hangAll level [.mk content checked (some (.mk own items))] placed =
      [.mk content checked (some (.mk own (hangAll (level + 1) items placed)))] := by
  induction placed generalizing items with
  | nil =>
      rfl
  | cons next placed inductionHypothesis =>
      obtain ⟨nextDeeper, laterDeeper⟩ := List.forall_mem_cons.mp deeper
      obtain ⟨depth, isDepth⟩ := Nat.exists_eq_add_of_lt nextDeeper
      have fromLevel : next.level - level = depth + 1 := by omega
      have fromBelow : next.level - (level + 1) = depth := by omega
      rw [hangAll_cons, hangAll_cons, fromLevel, fromBelow, hang]
      exact inductionHypothesis laterDeeper _

/-- Putting a list inside an item hangs its items there, one after the other. -/
theorem hangAll_attach
    {level : Nat}
    {placed : List Placed}
    (deeper : ∀ next ∈ placed, level < next.level)
    (current : Item)
    (entry : Entry) :
    hangAll level [current] (⟨level + 1, entry⟩ :: placed) =
      [current.attach (.mk entry.ordered (hangAll (level + 1) [entry.item] placed))] := by
  have oneDeeper : level + 1 - level = 1 := by omega
  obtain ⟨content, checked, nested⟩ := current
  rw [hangAll_cons, oneDeeper]
  cases nested with
  | none =>
      exact hangAll_deeper deeper content checked entry.ordered [entry.item]
  | some nested =>
      obtain ⟨own, items⟩ := nested
      refine (hangAll_deeper deeper content checked own (items ++ [entry.item])).trans ?_
      rw [hangAll_concat]
      rfl

/--
The items of a list that is nested by recursion are those hung one after the other
on the levels that the open lists tell.
-/
theorem nest_eq_hangAll
    {levels indent : Nat}
    (outer : List Nat)
    {current : Item}
    {entries : List Entry}
    (room : levels + outer.length + 1 = ItemList.maxNesting)
    (inside : ∀ entry ∈ entries, indent ≤ entry.indent) :
    ItemList.nest levels indent current entries =
      hangAll (outer.length + 1) [current] (place (indent :: outer) entries) := by
  fun_induction ItemList.nest levels indent current entries generalizing outer with
  | case1 =>
      rfl
  | case2 levels indent current entry rest further within beyond nested nestedHypothesis _
      inductionHypothesis =>
      have opens : settle (indent :: outer) entry.indent = entry.indent :: indent :: outer :=
        settle_of_lt further.1 (by omega)
      have restInside := (List.forall_mem_cons.mp inside).2
      have isWithin : ∀ other ∈ within, entry.indent ≤ other.indent := by
        intro other member
        simpa using List.mem_takeWhile_imp member
      have isBeyond : ∀ other, beyond.head? = some other → other.indent < entry.indent := by
        intro other isFirst
        have stops := List.head?_dropWhile_not (entry.indent ≤ ·.indent) rest
        change beyond.head? = some other at isFirst
        simp only [beyond] at isFirst
        rw [isFirst] at stops
        simpa using stops
      have levelsOfRest :
          place (entry.indent :: indent :: outer) rest =
            place (entry.indent :: indent :: outer) within ++ place (indent :: outer) beyond := by
        have divided : rest = within ++ beyond := List.takeWhile_append_dropWhile.symm
        rw [divided]
        exact place_append [] (by simp) isWithin isBeyond
      have withinDeeper :
          ∀ next ∈ place (entry.indent :: indent :: outer) within,
            outer.length + 1 < next.level :=
        fun _ => lt_level_of_mem_place [] (by simp) isWithin
      have roomWithin : levels - 1 + (indent :: outer).length + 1 = ItemList.maxNesting := by
        rw [List.length_cons]
        omega
      have isNested : nested = hangAll (outer.length + 1 + 1) [entry.item]
          (place (entry.indent :: indent :: outer) within) :=
        nestedHypothesis (indent :: outer) roomWithin isWithin
      have beyondInside : ∀ other ∈ beyond, indent ≤ other.indent :=
        fun other member => restInside other ((List.dropWhile_sublist _).subset member)
      rw [inductionHypothesis outer room beyondInside, place, opens, levelsOfRest,
        ← List.cons_append, hangAll_append, List.length_cons, List.length_cons,
        hangAll_attach withinDeeper, ← isNested]
  | case3 levels indent current entry rest notFurther inductionHypothesis =>
      have stays : settle (indent :: outer) entry.indent = indent :: outer := by
        apply settle_of_full (inside entry (by simp))
        intro opens
        exact notFurther ⟨opens.1, by omega⟩
      rw [place, stays, hangAll_cons, List.length_cons, Nat.sub_self, hang, hangAll_concat]
      exact congrArg (List.cons current)
        (inductionHypothesis outer room (List.forall_mem_cons.mp inside).2)

/-! ## The items of an outline in order -/

/-- The preorder of items behind others comes behind that of those. -/
theorem preorderAll_append
    (level : Nat)
    (ordered leads : Bool)
    (first second : List Item) :
    Item.preorderAll level ordered leads (first ++ second) =
      Item.preorderAll level ordered leads first ++
        Item.preorderAll level ordered (leads && first.isEmpty) second := by
  induction first generalizing leads with
  | nil =>
      simp [Item.preorderAll]
  | cons item rest inductionHypothesis =>
      obtain ⟨content, checked, nested⟩ := item
      cases nested with
      | none =>
          simp [Item.preorderAll, inductionHypothesis]
      | some nested =>
          simp [Item.preorderAll, inductionHypothesis]

/-- The last items of lists, one nested in the other, go so many levels down. -/
inductive Reaches : Nat → List Item → Prop where
  | bare
      (before : List Item)
      (content : List Span)
      (checked : Option Bool) :
      Reaches 0 (before ++ [.mk content checked none])
  | nested
      (before : List Item)
      (content : List Span)
      (checked : Option Bool)
      (own : Bool)
      {depth : Nat}
      {items : List Item} :
      Reaches depth items →
      Reaches (depth + 1) (before ++ [.mk content checked (some (.mk own items))])

/-- An entry that is hung on the level of the items is a new last item there. -/
theorem preorderAll_hang_zero
    {entry : Entry}
    (bare : entry.item.IsBare)
    {items : List Item}
    (nonempty : items ≠ [])
    (level : Nat)
    (ordered leads : Bool) :
    Reaches 0 (hang entry 0 items) ∧
      ∃ node, Shows node ⟨level, entry⟩ ∧
        Item.preorderAll level ordered leads (hang entry 0 items) =
          Item.preorderAll level ordered leads items ++ [node] := by
  obtain ⟨content, checked, isBare⟩ := bare
  rw [hang, isBare]
  refine ⟨.bare items content checked, ⟨level, ordered, false, .mk content checked none⟩,
    ⟨rfl, isBare.symm, nofun⟩, ?_⟩
  rw [preorderAll_append, List.isEmpty_eq_false_iff.mpr nonempty, Bool.and_false]
  rfl

/--
An entry that is hung at most one level below the last item comes last in order,
and it leads a list only when that list is new.
-/
theorem preorderAll_hang
    {entry : Entry}
    (bare : entry.item.IsBare)
    {depth reached : Nat}
    {items : List Item}
    (reaches : Reaches reached items)
    (near : depth ≤ reached + 1)
    (level : Nat)
    (ordered leads : Bool) :
    Reaches depth (hang entry depth items) ∧
      ∃ node, Shows node ⟨level + depth, entry⟩ ∧
        Item.preorderAll level ordered leads (hang entry depth items) =
          Item.preorderAll level ordered leads items ++ [node] := by
  induction reaches generalizing depth level ordered leads with
  | bare before ownContent ownChecked =>
      cases depth with
      | zero =>
          exact preorderAll_hang_zero bare (by simp) level ordered leads
      | succ depth =>
          have atOnce : depth = 0 := by omega
          subst atOnce
          obtain ⟨content, checked, isBare⟩ := bare
          rw [hang, List.modifyLast_concat, Item.mapNested, hang, isBare]
          refine ⟨.nested before ownContent ownChecked entry.ordered (.bare [] content checked),
            ⟨level + 1, entry.ordered, true, .mk content checked none⟩,
            ⟨rfl, isBare.symm, fun _ => rfl⟩, ?_⟩
          simp [preorderAll_append, Item.preorderAll, ItemList.preorder]
  | @nested before ownContent ownChecked own reached items reaches inductionHypothesis =>
      cases depth with
      | zero =>
          exact preorderAll_hang_zero bare (by simp) level ordered leads
      | succ depth =>
          obtain ⟨reachesHung, node, shows, sameItems⟩ :=
            inductionHypothesis (Nat.le_of_succ_le_succ near) (level + 1) own true
          rw [hang, List.modifyLast_concat, Item.mapNested]
          refine ⟨.nested before ownContent ownChecked own reachesHung, node, ?_, ?_⟩
          · rwa [Nat.add_assoc, Nat.add_comm 1] at shows
          · simp [preorderAll_append, Item.preorderAll, ItemList.preorder, sameItems]

/-- Entries hung on the levels that the open lists tell come in order behind those before. -/
theorem preorderAll_hangAll_place
    {base : Nat}
    (inner : List Nat)
    (deeper : ∀ other ∈ inner, base ≤ other)
    {entries : List Entry}
    (inside : ∀ entry ∈ entries, base ≤ entry.indent)
    (bare : ∀ entry ∈ entries, entry.item.IsBare)
    {items : List Item}
    (reaches : Reaches inner.length items)
    (ordered leads : Bool) :
    ∃ nodes, List.Forall₂ Shows nodes (place (inner ++ [base]) entries) ∧
      Item.preorderAll 1 ordered leads (hangAll 1 items (place (inner ++ [base]) entries)) =
        Item.preorderAll 1 ordered leads items ++ nodes := by
  induction entries generalizing inner items with
  | nil =>
      exact ⟨[], .nil, (List.append_nil _).symm⟩
  | cons entry rest inductionHypothesis =>
      obtain ⟨entryInside, restInside⟩ := List.forall_mem_cons.mp inside
      obtain ⟨entryBare, restBare⟩ := List.forall_mem_cons.mp bare
      obtain ⟨left, isLeft, leftDeeper⟩ := settle_of_le [] deeper entryInside
      have near : left.length ≤ inner.length + 1 := by
        have bound := length_settle_le (inner ++ [base]) entry.indent
        rw [isLeft] at bound
        simpa using bound
      obtain ⟨reachesHung, node, shows, sameItems⟩ :=
        preorderAll_hang entryBare reaches near 1 ordered leads
      obtain ⟨nodes, allShow, sameRest⟩ :=
        inductionHypothesis left leftDeeper restInside restBare reachesHung
      have level : (left ++ [base]).length = 1 + left.length := by
        rw [List.length_append, Nat.add_comm]
        rfl
      rw [place, isLeft, level, hangAll_cons, Nat.add_sub_cancel_left]
      refine ⟨node :: nodes, .cons shows allShow, ?_⟩
      rw [sameRest, sameItems, List.append_assoc]
      rfl

/-- The levels from the first entry of a list on. -/
theorem place_first
    (first : Entry)
    (entries : List Entry) :
    place [first.indent] (first :: entries) = ⟨1, first⟩ :: place [first.indent] entries := by
  have stays : settle [first.indent] first.indent = [first.indent] :=
    settle_of_full (Nat.le_refl _) (fun opens => Nat.lt_irrefl _ opens.1)
  rw [place, stays]
  rfl

/-- A list that is nested by recursion is the outline of its entries. -/
theorem ofEntries_eq_build
    {first : Entry}
    {entries : List Entry}
    (inside : ∀ entry ∈ entries, first.indent ≤ entry.indent) :
    ItemList.ofEntries first entries =
      build first.ordered (place [first.indent] (first :: entries)) := by
  have room : ItemList.maxNesting - 1 + ([] : List Nat).length + 1 = ItemList.maxNesting := rfl
  rw [ItemList.ofEntries, nest_eq_hangAll [] room inside, place_first]
  rfl

/-- The items of an outline are its entries, in the same order. -/
theorem preorder_build
    {first : Entry}
    {entries : List Entry}
    (inside : ∀ entry ∈ entries, first.indent ≤ entry.indent)
    (firstBare : first.item.IsBare)
    (bare : ∀ entry ∈ entries, entry.item.IsBare) :
    List.Forall₂ Shows
      ((build first.ordered (place [first.indent] (first :: entries))).preorder 1)
      (place [first.indent] (first :: entries)) := by
  obtain ⟨content, checked, isBare⟩ := firstBare
  have reaches : Reaches 0 [first.item] := isBare ▸ .bare [] content checked
  obtain ⟨nodes, allShow, sameItems⟩ :=
    preorderAll_hangAll_place [] (by simp) inside bare reaches first.ordered true
  rw [place_first]
  have items :
      (build first.ordered (⟨1, first⟩ :: place [first.indent] entries)).preorder 1 =
        ⟨1, first.ordered, true, first.item⟩ :: nodes := by
    refine sameItems.trans ?_
    rw [isBare]
    rfl
  rw [items]
  exact .cons ⟨rfl, rfl, fun _ => rfl⟩ allShow

end Outline

/--
The list that an item begins is the outline that one pass with open lists finds,
and the lines behind it are those that this pass leaves.  In the order in which
they are read, the items of the list are the entries of the pass, each on its
level, and the first item of each list tells how that list is marked.
-/
theorem Block.take_eq_outline
    {line : Line}
    {ordered : Bool}
    {body : Text}
    (isItem : LineKind.of line = .item ordered body)
    (rest : List Line) :
    let outline := Outline.run [line.indent] (line :: rest)
    take line rest = (some (.list (Outline.build ordered outline.1)), outline.2) ∧
      List.Forall₂ Outline.Shows ((Outline.build ordered outline.1).preorder 1) outline.1 := by
  let first : Entry := ⟨line.indent, ordered, Item.ofBody body⟩
  let entries := (takeLeading (entryOf? line.indent) rest).1.reduceOption
  have isFirst : entryOf? line.indent line = some (some first) := by
    rw [entryOf?, isItem]
    exact if_pos (Nat.le_refl _)
  have isOutline :
      Outline.run [line.indent] (line :: rest) =
        (Outline.place [first.indent] (first :: entries),
          (takeLeading (entryOf? line.indent) rest).2) := by
    have wholeRun := Outline.run_eq_place line.indent [] (by simp) (line :: rest)
    rw [takeLeading, isFirst, List.reduceOption_cons_of_some] at wholeRun
    exact wholeRun
  have inside : ∀ entry ∈ entries, first.indent ≤ entry.indent :=
    fun _ member => (of_mem_takeLeading_entryOf? member).1
  have bare : ∀ entry ∈ entries, entry.item.IsBare :=
    fun _ member => (of_mem_takeLeading_entryOf? member).2
  rw [isOutline]
  refine ⟨?_, Outline.preorder_build inside (Item.isBare_ofBody body) bare⟩
  have isTaken :
      take line rest =
        (some (.list (ItemList.ofEntries first entries)),
          (takeLeading (entryOf? line.indent) rest).2) := by
    simp only [take, isItem]
    rfl
  rw [isTaken, Outline.ofEntries_eq_build inside]

/--
An item that is indented less than one before it, but more than the first, carries
on the list that the deeper one stands in.
-/
theorem Block.take_eq_outline_between_indents :
    let line : Line := ['-', ' ', 'a']
    let rest : List Line :=
      [[' ', ' ', '1', '.', ' ', 'b'], [], [' ', '-', ' ', 'c'], ['d']]
    let outline := Outline.run [line.indent] (line :: rest)
    LineKind.of line = .item false ['a'] ∧
      take line rest = (some (.list (Outline.build false outline.1)), outline.2) ∧
      List.Forall₂ Outline.Shows ((Outline.build false outline.1).preorder 1) outline.1 := by
  intro line rest outline
  have isItem : LineKind.of line = .item false ['a'] := by
    decide
  exact ⟨isItem, take_eq_outline isItem rest⟩

example :
    let lines : List Line :=
      [['-', ' ', 'a'], [' ', ' ', '1', '.', ' ', 'b'], [], [' ', '-', ' ', 'c'], ['d']]
    ((Outline.run [0] lines).1.map Outline.Placed.level, (Outline.run [0] lines).2) =
      ([1, 2, 2], [['d']]) := by
  cbv

end Guidebook
