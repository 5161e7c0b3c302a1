import Guidebook.Block.Basic
import Guidebook.Span.Reading

namespace Guidebook

/-!
# Items and their nesting

An item stands in the list of the nearest earlier item that is indented less.
How far apart two indents are does not matter, only their order does.
-/

/-- Reads the box of a task: whether it is ticked, and the text behind it. -/
def taskBox? (body : Text) : Option (Bool × Text) :=
  match body with
  | '[' :: mark :: ']' :: blank :: rest =>
      if isBlank blank then
        if mark = ' ' then some (false, Text.trimStart rest)
        else if mark = 'x' ∨ mark = 'X' then some (true, Text.trimStart rest)
        else none
      else
        none
  | _ => none

namespace Item

/-- The item whose text follows a list marker. -/
def ofBody (body : Text) : Item :=
  match taskBox? body with
  | some (checked, content) => .mk (Span.read content) (some checked) none
  | none => .mk (Span.read body) none none

/-- Puts a list inside an item; a list that is already there is continued. -/
def attach : Item → ItemList → Item
  | .mk content checked none, list => .mk content checked (some list)
  | .mk content checked (some (.mk ordered items)), .mk _ more =>
      .mk content checked (some (.mk ordered (items ++ more)))

end Item

/-- An item as it stands on its line: its indent, whether it is numbered, and itself. -/
structure Entry where
  indent : Nat
  ordered : Bool
  item : Item
  deriving Repr

namespace ItemList

/-- Lists nest this deep; an item that is indented further joins the deepest list. -/
def maxNesting : Nat := 32

/--
The items of the list that `current` is the latest item of, when `levels` more
levels may be opened inside it.  An entry that is indented further than the list
opens a list of its own inside `current`, which takes all entries from there on
that are indented as far.
-/
def nest (levels indent : Nat) (current : Item) : List Entry → List Item
  | [] => [current]
  | entry :: rest =>
      if indent < entry.indent ∧ 0 < levels then
        let inside := rest.takeWhile (entry.indent ≤ ·.indent)
        let outside := rest.dropWhile (entry.indent ≤ ·.indent)
        let nested := nest (levels - 1) entry.indent entry.item inside
        nest levels indent (current.attach (.mk entry.ordered nested)) outside
      else
        current :: nest levels indent entry.item rest
termination_by entries => entries.length
decreasing_by
  · have := (List.takeWhile_sublist (l := rest) (entry.indent ≤ ·.indent)).length_le
    simp only [List.length_cons]
    omega
  · have := (List.dropWhile_sublist (l := rest) (entry.indent ≤ ·.indent)).length_le
    simp only [List.length_cons]
    omega
  · simp

/-- The list of an entry and those after it; its first marker says whether it is numbered. -/
def ofEntries (first : Entry) (others : List Entry) : ItemList :=
  .mk first.ordered (nest (maxNesting - 1) first.indent first.item others)

end ItemList

end Guidebook
