import Guidebook.Block.Basic
import Guidebook.Typst.Inline

namespace Guidebook

/-!
# Typeset lists

Each item is a line of its own, indented by two spaces for each list that its
own list lies in.
-/

mutual

/-- The number of items of a list, those of the lists inside it included. -/
def ItemList.count : ItemList → Nat
  | .mk _ items => Item.countAll items

/-- The number of items from the given ones down. -/
def Item.countAll : List Item → Nat
  | [] => 0
  | .mk _ _ none :: rest => Item.countAll rest + 1
  | .mk _ _ (some nested) :: rest => nested.count + Item.countAll rest + 1

end

namespace Typst

/-- The box in front of a task. -/
def taskBox : Option Bool → Text
  | none => []
  | some true => "☑ ".toList
  | some false => "☐ ".toList

/-- The line of an item: its indent, the marker of its list, its box and its content. -/
def itemLine (depth : Nat) (ordered : Bool) (checked : Option Bool) (content : List Span) :
    Text :=
  List.replicate (2 * depth) ' ' ++ (if ordered then '+' else '-') :: ' ' ::
    taskBox checked ++ Span.typesetAll content ++ ['\n']

end Typst

mutual

/-- The lines of a list that lies in so many others. -/
def ItemList.typeset (depth : Nat) : ItemList → Text
  | .mk ordered items => Item.typesetAll depth ordered items

/-- The lines of items and of the lists inside them. -/
def Item.typesetAll (depth : Nat) (ordered : Bool) : List Item → Text
  | [] => []
  | .mk content checked none :: rest =>
      Typst.itemLine depth ordered checked content ++ Item.typesetAll depth ordered rest
  | .mk content checked (some nested) :: rest =>
      Typst.itemLine depth ordered checked content ++ nested.typeset (depth + 1) ++
        Item.typesetAll depth ordered rest

end

end Guidebook
