import Guidebook.Proofs.Block.WellFormed

namespace Guidebook

/-!
# What the items of a list hold

Each item of a list that is read holds the spans of a part of its line, at whatever
depth it stands.  So no line end gets into a list, and the same is true for every list
that is nested in it.
-/

/-- What an item shows, the list inside it apart. -/
def Item.content : Item → List Span
  | .mk content _ _ => content

mutual

/-- What the items of a list and of the lists inside it show, in the order in which they stand. -/
def ItemList.contents : ItemList → List (List Span)
  | .mk _ items => Item.contentsAll items

/-- What some items and those of the lists inside them show, in the order in which they stand. -/
def Item.contentsAll : List Item → List (List Span)
  | [] => []
  | .mk content _ none :: rest => content :: Item.contentsAll rest
  | .mk content _ (some nested) :: rest => content :: (nested.contents ++ Item.contentsAll rest)

end

mutual

/-- A list and all the lists inside it, at any depth. -/
def ItemList.lists : ItemList → List ItemList
  | .mk ordered items => .mk ordered items :: Item.listsAll items

/-- The lists inside some items, at any depth. -/
def Item.listsAll : List Item → List ItemList
  | [] => []
  | .mk _ _ none :: rest => Item.listsAll rest
  | .mk _ _ (some nested) :: rest => nested.lists ++ Item.listsAll rest

end

mutual

/-- The items of a list show the same on whatever level the list stands. -/
theorem ItemList.map_content_preorder
    (level : Nat)
    (list : ItemList) :
    (list.preorder level).map (·.item.content) = list.contents := by
  cases list with
  | mk ordered items =>
      exact Item.map_content_preorderAll level ordered true items

/-- The nodes of items in preorder show the contents of the items. -/
theorem Item.map_content_preorderAll
    (level : Nat)
    (ordered leads : Bool)
    (items : List Item) :
    (Item.preorderAll level ordered leads items).map (·.item.content) = Item.contentsAll items := by
  cases items with
  | nil =>
      rfl
  | cons item rest =>
      have restSame := Item.map_content_preorderAll level ordered false rest
      cases item with
      | mk content checked nested =>
          cases nested with
          | none =>
              rw [Item.preorderAll, Item.contentsAll, List.map_cons, restSame]
              rfl
          | some list =>
              rw [Item.preorderAll, Item.contentsAll, List.map_cons, List.map_append, restSame,
                list.map_content_preorder]
              rfl

end

mutual

/-- The contents of a list inside another one are contents of that one. -/
theorem ItemList.contents_subset_of_mem_lists
    {outer list : ItemList}
    (member : list ∈ outer.lists) :
    list.contents ⊆ outer.contents := by
  cases outer with
  | mk ordered items =>
      rcases List.mem_cons.mp member with isOuter | isInside
      · rw [isOuter]
        exact List.Subset.refl _
      · exact Item.contents_subset_of_mem_listsAll isInside

/-- The contents of a list below items are contents of the items. -/
theorem Item.contents_subset_of_mem_listsAll
    {items : List Item}
    {list : ItemList}
    (member : list ∈ Item.listsAll items) :
    list.contents ⊆ Item.contentsAll items := by
  cases items with
  | nil =>
      cases member
  | cons item rest =>
      cases item with
      | mk content checked nested =>
          cases nested with
          | none =>
              exact List.subset_cons_of_subset _ (Item.contents_subset_of_mem_listsAll member)
          | some inner =>
              rw [Item.contentsAll]
              apply List.subset_cons_of_subset
              rcases List.mem_append.mp member with isInner | isLater
              · exact List.subset_append_of_subset_left _
                  (ItemList.contents_subset_of_mem_lists isInner)
              · exact List.subset_append_of_subset_right _
                  (Item.contents_subset_of_mem_listsAll isLater)

end

mutual

/-- A list inside a well-formed one is well formed. -/
theorem ItemList.WellFormed.of_mem_lists
    {outer list : ItemList}
    (formed : outer.WellFormed)
    (member : list ∈ outer.lists) :
    list.WellFormed := by
  cases outer with
  | mk ordered items =>
      rcases List.mem_cons.mp member with isOuter | isInside
      · rw [isOuter]
        exact formed
      · exact Item.AllWellFormed.of_mem_listsAll formed.2 isInside

theorem Item.AllWellFormed.of_mem_listsAll
    {items : List Item}
    {list : ItemList}
    (formed : Item.AllWellFormed items)
    (member : list ∈ Item.listsAll items) :
    list.WellFormed := by
  cases items with
  | nil =>
      cases member
  | cons item rest =>
      obtain ⟨itemFormed, restFormed⟩ := formed
      cases item with
      | mk content checked nested =>
          cases nested with
          | none =>
              exact Item.AllWellFormed.of_mem_listsAll restFormed member
          | some inner =>
              rcases List.mem_append.mp member with isInner | isLater
              · exact ItemList.WellFormed.of_mem_lists itemFormed.2 isInner
              · exact Item.AllWellFormed.of_mem_listsAll restFormed isLater

end

mutual

/-- The contents of a well-formed list are in normal form. -/
theorem ItemList.WellFormed.normalAll_contents
    {list : ItemList}
    (formed : list.WellFormed) :
    ∀ content ∈ list.contents, Span.NormalAll content := by
  cases list with
  | mk ordered items =>
      exact Item.AllWellFormed.normalAll_contents formed.2

theorem Item.AllWellFormed.normalAll_contents
    {items : List Item}
    (formed : Item.AllWellFormed items) :
    ∀ content ∈ Item.contentsAll items, Span.NormalAll content := by
  cases items with
  | nil =>
      exact List.forall_mem_nil _
  | cons item rest =>
      obtain ⟨itemFormed, restFormed⟩ := formed
      have restNormal := Item.AllWellFormed.normalAll_contents restFormed
      cases item with
      | mk content checked nested =>
          cases nested with
          | none =>
              exact List.forall_mem_cons.mpr ⟨itemFormed, restNormal⟩
          | some inner =>
              rw [Item.contentsAll, List.forall_mem_cons, List.forall_mem_append]
              exact ⟨itemFormed.1, ItemList.WellFormed.normalAll_contents itemFormed.2, restNormal⟩

end

/-! ## Where items come from -/

namespace Outline

end Outline

namespace Block

end Block

end Guidebook
