import Guidebook.Proofs.Code.Division
import Mathlib.Data.List.Nodup

namespace Guidebook

open List

/-!
# What an ownership table stands for

A table stands for holdings: parts of the line that belong to one claim each,
and the unowned parts between them, which may be empty.  This module shows what
the operations on a table do to its holdings.  A claim splits an unowned part in
three, a sweep replaces every unowned part by what its claims split it into,
and the runs that are read off a table are the holdings that are not empty.
-/

namespace Ownership

/-! Runs of places with one owner, in any table. -/

section Places

variable
    {table : Ownership}
    {owner : Option Nat}
    {before after : List (Option Nat)}
    {length : Nat}

/-- Inside a stretch of one owner each character has that owner. -/
theorem ownerAt_eq
    (shape : table.owners.toList = before ++ List.replicate length owner ++ after)
    {index : Nat}
    (within : index < length) :
    table.ownerAt (before.length + index) = owner := by
  have found : table.owners.toList[before.length + index]? = some owner := by
    rw [shape, List.append_assoc, List.getElem?_append_right (Nat.le_add_right _ _),
      Nat.add_sub_cancel_left, List.getElem?_append_left (by simpa using within),
      List.getElem?_replicate_of_lt within]
  rw [Array.getElem?_toList] at found
  rw [ownerAt, Array.getD_eq_getD_getElem?, found, Option.getD_some]

/-- A stretch of one owner ends where another owner begins. -/
theorem runEnd_eq
    {owners : Array (Option Nat)}
    (shape : owners.toList = before ++ List.replicate length owner ++ after)
    (otherBehind : after.head? ≠ some owner) :
    runEnd owners owner before.length = before.length + length := by
  induction length generalizing before with
  | zero =>
      have behind : owners[before.length]? = after.head? := by
        rw [← Array.getElem?_toList, shape, List.replicate_zero, List.append_nil,
          List.getElem?_append_right (Nat.le_refl _), Nat.sub_self, List.head?_eq_getElem?]
      rw [runEnd]
      split
      · next inside =>
          rw [Array.getElem?_eq_getElem inside] at behind
          split
          · next same =>
              rw [same] at behind
              exact (otherBehind behind.symm).elim
          · rfl
      · rfl
  | succ length inductionHypothesis =>
      have shifted :
          owners.toList = (before ++ [owner]) ++ List.replicate length owner ++ after := by
        rw [shape, List.replicate_succ]
        simp
      have here : owners[before.length]? = some owner := by
        rw [← Array.getElem?_toList, shape, List.append_assoc,
          List.getElem?_append_right (Nat.le_refl _), Nat.sub_self]
        rfl
      obtain ⟨inside, same⟩ := Array.getElem?_eq_some_iff.mp here
      have further := inductionHypothesis shifted
      rw [List.length_append, List.length_singleton] at further
      rw [runEnd, dif_pos inside, if_pos same, further]
      omega

/-- From the start of a stretch of one owner, the next change is at its end. -/
theorem nextChange_eq
    (shape : table.owners.toList = before ++ List.replicate length owner ++ after)
    (nonempty : 0 < length)
    (otherBehind : after.head? ≠ some owner) :
    table.nextChange before.length = before.length + length := by
  have here : table.ownerAt before.length = owner := ownerAt_eq shape nonempty
  obtain ⟨rest, rfl⟩ := Nat.exists_eq_add_of_le' nonempty
  have shifted :
      table.owners.toList = (before ++ [owner]) ++ List.replicate rest owner ++ after := by
    rw [shape, List.replicate_succ]
    simp
  have further := runEnd_eq shifted otherBehind
  rw [List.length_append, List.length_singleton] at further
  rw [nextChange, here, further]
  omega

/-- Giving a run of places to a new claim changes the owner of these and of no others. -/
theorem toList_owners_give
    {kind : TokenKind}
    {middle : List (Option Nat)}
    (shape : table.owners.toList = before ++ middle ++ after) :
    (table.give kind before.length (before.length + middle.length)).owners.toList =
      before ++ List.replicate middle.length (some table.kinds.size) ++ after := by
  have size : table.owners.size = (before ++ middle ++ after).length := by
    rw [← shape, Array.length_toList]
  have untilStart : (table.owners.extract 0 before.length).toList = before := by
    rw [Array.toList_extract, shape, List.extract_eq_take_drop, List.append_assoc,
      List.drop_zero, Nat.sub_zero, List.take_left]
  have fromStop :
      (table.owners.extract (before.length + middle.length)).toList = after := by
    rw [Array.toList_extract, shape, size, List.extract_eq_take_drop, ← List.length_append,
      List.drop_left, List.length_append, Nat.add_sub_cancel_left, List.take_length]
  rw [give, Array.toList_append, Array.toList_append, Array.toList_replicate, untilStart,
    fromStop, Nat.add_sub_cancel_left]

end Places

/-- The number of a new claim stands for the kind that it was made for, ever after. -/
theorem kind_of_give
    {table : Ownership}
    {kind : TokenKind}
    {start stop : Nat}
    {further : Array TokenKind}
    (grown : (table.give kind start stop).kinds.toList <+: further.toList) :
    further[table.kinds.size]? = some kind := by
  rw [give, Array.toList_push] at grown
  obtain ⟨more, shape⟩ := grown
  rw [← Array.getElem?_toList, ← shape, List.append_assoc, ← Array.length_toList,
    List.getElem?_append_right (Nat.le_refl _), Nat.sub_self]
  rfl

end Ownership

/-- A part of a line that one claim owns, or an unowned part between claims. -/
structure Holding where
  owner : Option Nat
  text : Text
  deriving Repr, DecidableEq

namespace Holding

/-- The owners of the places of a holding. -/
def owners (holding : Holding) : List (Option Nat) :=
  List.replicate holding.text.length holding.owner

/-- The fragments of a holding, an unowned part becoming what is given. -/
def fragments
    (kinds : Array TokenKind)
    (gap : Text → List Fragment)
    (holding : Holding) :
    List Fragment :=
  match holding.owner with
  | none => gap holding.text
  | some id => [⟨kinds[id]?, holding.text⟩]

/-- Holdings have as many owners as they have characters. -/
theorem length_flatMap_owners
    (holdings : List Holding) :
    (holdings.flatMap owners).length = (holdings.flatMap text).length := by
  induction holdings with
  | nil =>
      rfl
  | cons holding rest inductionHypothesis =>
      rw [List.flatMap_cons, List.flatMap_cons, List.length_append, List.length_append,
        inductionHypothesis, owners, List.length_replicate]

/-- The kinds of further claims make no difference to holdings of known claims. -/
theorem flatMap_fragments_of_prefix
    {kinds further : Array TokenKind}
    {holdings : List Holding}
    (grown : kinds.toList <+: further.toList)
    (known : ∀ id ∈ holdings.filterMap owner, id < kinds.size)
    (gap : Text → List Fragment) :
    holdings.flatMap (fragments further gap) = holdings.flatMap (fragments kinds gap) := by
  apply List.flatMap_congr
  intro holding member
  cases isOwned : holding.owner with
  | none =>
      simp only [fragments, isOwned]
  | some id =>
      have idKnown : id < kinds.size :=
        known id (List.mem_filterMap.mpr ⟨holding, member, isOwned⟩)
      have inList : id < kinds.toList.length := by
        rwa [Array.length_toList]
      have same : further[id]? = kinds[id]? := by
        rw [← Array.getElem?_toList, ← Array.getElem?_toList,
          List.prefix_iff_getElem?.mp grown id inList, List.getElem?_eq_getElem inList]
      simp only [fragments, isOwned, same]

end Holding

/-- A table stands for holdings that make up a line. -/
structure Layout (line : Text) (table : Ownership) (holdings : List Holding) : Prop where
  texts :
    holdings.flatMap Holding.text = line
  owners :
    table.owners.toList = holdings.flatMap Holding.owners
  apart :
    (holdings.map Holding.owner).IsChain (fun first second => first = none → second ≠ none)
  nonempty :
    ∀ holding ∈ holdings, holding.owner ≠ none → holding.text ≠ []
  distinct :
    (holdings.filterMap Holding.owner).Nodup
  known :
    ∀ id ∈ holdings.filterMap Holding.owner, id < table.kinds.size

/--
A table that comes later than another one, in whose line some holdings were split.
Between those done before and those to do behind there is now `split`, and
whatever becomes of unowned text, it makes the fragments that are given.
-/
structure Split
    (line : Text)
    (table further : Ownership)
    (done split todo : List Holding)
    (fragments : (Text → List Fragment) → List Fragment) : Prop where
  layout :
    Layout line further (done ++ split ++ todo)
  grown :
    table.kinds.toList <+: further.kinds.toList
  divided :
    ∀ gap, split.flatMap (Holding.fragments further.kinds gap) = fragments gap

namespace Layout

/-! The same runs, found at the holdings that a table stands for. -/

section Places

variable
    {line : Text}
    {table : Ownership}
    {done todo : List Holding}
    {holding : Holding}

/-- In a layout the owners of a holding come between those of the holdings around it. -/
theorem owners_split
    (layout : Layout line table (done ++ holding :: todo)) :
    table.owners.toList =
      done.flatMap Holding.owners ++
        List.replicate holding.text.length holding.owner ++
          todo.flatMap Holding.owners := by
  rw [layout.owners, List.flatMap_append, List.flatMap_cons, List.append_assoc]
  rfl

/-- Behind a holding comes a place of another owner, or the end of the line. -/
theorem head?_owners_ne
    (layout : Layout line table (done ++ holding :: todo)) :
    (todo.flatMap Holding.owners).head? ≠ some holding.owner := by
  intro same
  cases isOwned : holding.owner with
  | none =>
      rw [isOwned] at same
      cases todo with
      | nil =>
          simp at same
      | cons next later =>
          have chain := layout.apart
          rw [List.map_append, List.map_cons, List.map_cons, List.isChain_split,
            List.isChain_cons_cons] at chain
          have nextOwned : next.owner ≠ none := chain.2.1 isOwned
          have nextNonempty : next.text ≠ [] := layout.nonempty next (by simp) nextOwned
          obtain ⟨character, rest, shape⟩ := List.exists_cons_of_ne_nil nextNonempty
          rw [List.flatMap_cons, Holding.owners, shape, List.length_cons, List.replicate_succ,
            List.cons_append, List.head?_cons, Option.some.injEq] at same
          exact nextOwned same
  | some id =>
      rw [isOwned] at same
      obtain ⟨other, otherMember, inOther⟩ := List.mem_flatMap.mp (List.mem_of_head? same)
      have otherOwned : other.owner = some id := (List.eq_of_mem_replicate inOther).symm
      have distinct := layout.distinct
      rw [List.filterMap_append, List.filterMap_cons_some isOwned, List.nodup_middle,
        List.nodup_cons] at distinct
      apply distinct.1
      exact List.mem_append_right _ (List.mem_filterMap.mpr ⟨other, otherMember, otherOwned⟩)

/-- From the start of a holding, the next change of owner is at its end. -/
theorem nextChange_eq
    (layout : Layout line table (done ++ holding :: todo))
    (nonempty : holding.text ≠ []) :
    table.nextChange (done.flatMap Holding.text).length =
      (done.flatMap Holding.text).length + holding.text.length := by
  rw [← Holding.length_flatMap_owners]
  exact Ownership.nextChange_eq layout.owners_split (List.length_pos_of_ne_nil nonempty)
    layout.head?_owners_ne

/-- Each character of a holding has the owner of the holding. -/
theorem ownerAt_eq
    (layout : Layout line table (done ++ holding :: todo))
    {index : Nat}
    (within : index < holding.text.length) :
    table.ownerAt ((done.flatMap Holding.text).length + index) = holding.owner := by
  rw [← Holding.length_flatMap_owners]
  exact Ownership.ownerAt_eq layout.owners_split within

theorem length_le
    (layout : Layout line table (done ++ holding :: todo)) :
    (done.flatMap Holding.text).length + holding.text.length ≤ line.length := by
  rw [← layout.texts, List.flatMap_append, List.flatMap_cons, List.length_append,
    List.length_append, ← Nat.add_assoc]
  exact Nat.le_add_right _ _

/-- A holding that is not empty starts inside the line, with its owner. -/
theorem ownerAt_start
    (layout : Layout line table (done ++ holding :: todo))
    (nonempty : holding.text ≠ []) :
    (done.flatMap Holding.text).length < line.length ∧
      table.ownerAt (done.flatMap Holding.text).length = holding.owner := by
  have long : 0 < holding.text.length := List.length_pos_of_ne_nil nonempty
  constructor
  · exact Nat.lt_of_lt_of_le (Nat.lt_add_of_pos_right long) layout.length_le
  · have atStart := layout.ownerAt_eq long
    rwa [Nat.add_zero] at atStart

/-- A holding has the text that lies between its ends in the line. -/
theorem slice_eq
    (layout : Layout line table (done ++ holding :: todo)) :
    line.slice (done.flatMap Holding.text).length
        ((done.flatMap Holding.text).length + holding.text.length) =
      holding.text := by
  rw [← layout.texts, Text.slice, List.flatMap_append, List.flatMap_cons,
    Nat.add_sub_cancel_left, List.drop_left, List.take_left]

/-- The owners of some of the holdings are known to the table. -/
theorem known_of_sublist
    {part holdings : List Holding}
    (layout : Layout line table holdings)
    (within : part <+ holdings) :
    ∀ id ∈ part.filterMap Holding.owner, id < table.kinds.size :=
  fun id member => layout.known id ((within.filterMap Holding.owner).subset member)

/-- Two descriptions of a line that differ in one place take up the same length there. -/
theorem length_flatMap_text_eq
    {other : Ownership}
    {split : List Holding}
    (layout : Layout line table (done ++ holding :: todo))
    (layoutSplit : Layout line other (done ++ split ++ todo)) :
    ((done ++ split).flatMap Holding.text).length =
      (done.flatMap Holding.text).length + holding.text.length := by
  have same := congrArg List.length (layout.texts.trans layoutSplit.texts.symm)
  simp only [List.flatMap_append, List.flatMap_cons, List.length_append] at same ⊢
  omega

end Places

/-- A new claim splits an unowned part in three. -/
theorem give
    {line : Text}
    {table : Ownership}
    {done todo : List Holding}
    {gap piece rest : Text}
    (layout : Layout line table (done ++ ⟨none, gap ++ (piece ++ rest)⟩ :: todo))
    (nonempty : piece ≠ [])
    (kind : TokenKind)
    {start : Nat}
    (isStart : start = (done.flatMap Holding.text).length + gap.length) :
    Layout line (table.give kind start (start + piece.length))
      (done ++ ⟨none, gap⟩ :: ⟨some table.kinds.size, piece⟩ :: ⟨none, rest⟩ :: todo) where
  texts := by
    rw [← layout.texts]
    simp
  owners := by
    have shape :
        table.owners.toList =
          (done.flatMap Holding.owners ++ List.replicate gap.length none) ++
            List.replicate piece.length none ++
              (List.replicate rest.length none ++ todo.flatMap Holding.owners) := by
      rw [layout.owners_split]
      simp [← List.replicate_append_replicate]
    have atStart :
        start = (done.flatMap Holding.owners ++ List.replicate gap.length none).length := by
      rw [isStart, List.length_append, Holding.length_flatMap_owners, List.length_replicate]
    have atStop : piece.length = (List.replicate piece.length (none : Option Nat)).length := by
      rw [List.length_replicate]
    rw [atStart, atStop, Ownership.toList_owners_give shape]
    simp [Holding.owners]
  apart := by
    have chain := layout.apart
    simp only [List.map_append, List.map_cons] at chain ⊢
    rw [List.isChain_split] at chain ⊢
    refine ⟨chain.1, List.isChain_cons_cons.mpr ⟨by simp, ?_⟩⟩
    exact List.isChain_cons_cons.mpr ⟨by simp, chain.2⟩
  nonempty := by
    intro holding member isOwned
    simp only [List.mem_append, List.mem_cons] at member
    rcases member with inDone | rfl | rfl | rfl | inTodo
    · exact layout.nonempty holding (by simp [inDone]) isOwned
    · simp at isOwned
    · exact nonempty
    · simp at isOwned
    · exact layout.nonempty holding (by simp [inTodo]) isOwned
  distinct := by
    have distinct := layout.distinct
    have known := layout.known
    simp only [List.filterMap_append, List.filterMap_cons] at distinct known ⊢
    refine List.nodup_middle.mpr (List.nodup_cons.mpr ⟨?_, distinct⟩)
    intro member
    exact Nat.lt_irrefl _ (known _ member)
  known := by
    intro id member
    have known := layout.known
    simp only [List.filterMap_append, List.filterMap_cons, List.mem_append, List.mem_cons]
      at known member
    rw [Ownership.give, Array.size_push]
    rcases member with inDone | isNew | inTodo
    · exact Nat.lt_succ_of_lt (known id (.inl inDone))
    · rw [isNew]
      exact Nat.lt_succ_self _
    · exact Nat.lt_succ_of_lt (known id (.inr inTodo))

section Claims

variable
    {line part : Text}
    {done todo : List Holding}
    {table : Ownership}
    {start place : Nat}

/-- What a claim of an unowned part from a place on leaves behind the holdings before it. -/
def behindClaim
    (done : List Holding)
    (part : Text)
    (place : Nat)
    (claim : Extent)
    (id : Nat) :
    List Holding :=
  done ++ [⟨none, part.slice place claim.start⟩, ⟨some id, part.slice claim.start claim.stop⟩]

/-- Behind a claim the holdings reach to the end of the claim. -/
theorem length_behindClaim
    {claim : Extent}
    (isPlace : (done.flatMap Holding.text).length = start + place)
    (startsLater : place ≤ claim.start)
    (isLong : claim.start < claim.stop)
    (within : claim.stop ≤ part.length)
    (id : Nat) :
    ((behindClaim done part place claim id).flatMap Holding.text).length =
      start + claim.stop := by
  have gapLength := part.length_slice place (Nat.le_trans isLong.le within)
  have pieceLength := part.length_slice claim.start within
  simp only [behindClaim, List.flatMap_append, List.flatMap_cons, List.flatMap_nil,
    List.length_append, List.length_nil]
  omega

/-- A claim of an unowned part from a place on leaves the part behind the claim unowned. -/
theorem give_claim
    {claim : Extent}
    (layout : Layout line table (done ++ ⟨none, part.drop place⟩ :: todo))
    (isPlace : (done.flatMap Holding.text).length = start + place)
    (startsLater : place ≤ claim.start)
    (isLong : claim.start < claim.stop)
    (within : claim.stop ≤ part.length)
    (kind : TokenKind) :
    Layout line (table.give kind (start + claim.start) (start + claim.stop))
      (behindClaim done part place claim table.kinds.size ++
        ⟨none, part.drop claim.stop⟩ :: todo) := by
  have gapLength := part.length_slice place (Nat.le_trans isLong.le within)
  have pieceLength := part.length_slice claim.start within
  have pieceNonempty : part.slice claim.start claim.stop ≠ [] :=
    List.ne_nil_of_length_pos (by omega)
  have isStart :
      start + claim.start =
        (done.flatMap Holding.text).length + (part.slice place claim.start).length := by
    omega
  have isStop :
      start + claim.stop =
        start + claim.start + (part.slice claim.start claim.stop).length := by
    omega
  rw [← part.slice_append_drop startsLater, ← part.slice_append_drop isLong.le] at layout
  rw [isStop, behindClaim, List.append_assoc]
  exact layout.give pieceNonempty kind isStart

/--
A rule's claims of an unowned part from a place on split what is left of the
part as a cut at these claims does.
-/
theorem foldl_give
    (rule : Rule)
    {claims : List Extent}
    (layout : Layout line table (done ++ ⟨none, part.drop place⟩ :: todo))
    (isPlace : (done.flatMap Holding.text).length = start + place)
    (inOrder : InOrder place part.length claims) :
    ∃ split,
      Split line table
        (claims.foldl
          (fun table extent =>
            if extent.isEmpty then table
            else table.give rule.kind (start + extent.start) (start + extent.stop))
          table)
        done split todo
        (fun gap => Rule.cutAt rule.kind gap part place (claims.filter (!·.isEmpty))) := by
  induction claims generalizing place table done with
  | nil =>
      refine ⟨[⟨none, part.drop place⟩], by simpa using layout, List.prefix_refl _, ?_⟩
      intro gap
      simp [Holding.fragments, Rule.cutAt]
  | cons claim later inductionHypothesis =>
      cases inOrder with
      | cons startsLater forwards laterInOrder =>
          rw [List.foldl_cons]
          by_cases isEmpty : claim.isEmpty
          · rw [if_pos isEmpty, List.filter_cons_of_neg (by simp [isEmpty])]
            exact inductionHypothesis layout isPlace
              (laterInOrder.of_le (Nat.le_trans startsLater forwards))
          · rw [if_neg isEmpty, List.filter_cons_of_pos (by simp [isEmpty])]
            have isLong : claim.start < claim.stop := by
              simpa [Extent.isEmpty] using isEmpty
            have within : claim.stop ≤ part.length := laterInOrder.le
            -- The later claims are made of what the first one leaves behind itself.
            obtain ⟨split, isSplit⟩ :=
              inductionHypothesis
                (layout.give_claim isPlace startsLater isLong within rule.kind)
                (length_behindClaim isPlace startsLater isLong within table.kinds.size)
                laterInOrder
            have isKind := Ownership.kind_of_give isSplit.grown
            refine ⟨⟨none, part.slice place claim.start⟩ ::
              ⟨some table.kinds.size, part.slice claim.start claim.stop⟩ :: split, ?_, ?_, ?_⟩
            · simpa [behindClaim] using isSplit.layout
            · refine List.IsPrefix.trans ?_ isSplit.grown
              rw [Ownership.give, Array.toList_push]
              exact List.prefix_append _ _
            · intro gap
              simp only [List.flatMap_cons, Holding.fragments, isKind, isSplit.divided gap,
                Rule.cutAt]
              rfl

/-- Running a rule on an unowned part splits the part as the rule cuts it. -/
theorem claim
    {part : Text}
    (rule : Rule)
    (layout : Layout line table (done ++ ⟨none, part⟩ :: todo)) :
    ∃ split,
      Split line table
        (table.claim rule line (done.flatMap Holding.text).length
          ((done.flatMap Holding.text).length + part.length))
        done split todo (fun gap => rule.cut gap part) := by
  rw [Ownership.claim, layout.slice_eq]
  exact layout.foldl_give rule (Nat.add_zero _).symm (rule.inOrder_claims part)

end Claims

end Layout

end Guidebook
