import Guidebook.Proofs.Typst.Keeping

namespace Guidebook

/-!
# Blocks in bundles

A guide is typeset in bundles.  A heading makes a bundle with the block after it, or
alone when it comes last, and every other block is a bundle of its own.  No block is
left out or comes twice, and nothing stands in the markup but the blocks and the
wrappers of those bundles that start with a heading.
-/

/-- Blocks that are typeset as one. -/
inductive Bundle where
  | single (block : Block) (notHeading : ¬ block.isHeading)
  | kept (heading : Block) (isHeading : heading.isHeading) (next? : Option Block)

namespace Bundle

/-- The blocks of a bundle, in order. -/
def blocks : Bundle → List Block
  | .single block _ => [block]
  | .kept heading _ next? => heading :: next?.toList

/-- The blocks of a bundle, in a wrapper that keeps them on one page if a heading comes first. -/
def typeset (theme : Theme) (bundle : Bundle) : Text :=
  let own := bundle.blocks.flatMap (Block.typeset theme)
  match bundle with
  | .single _ _ => own
  | .kept _ _ _ => Typst.keepTogether own

/-- Whether a bundle is a heading that no block comes after. -/
def isAlone : Bundle → Bool
  | .kept _ _ none => true
  | _ => false

/-- The bundles that blocks make. -/
def ofBlocks : List Block → List Bundle
  | [] => []
  | [block] =>
      if isHeading : block.isHeading then [.kept block isHeading none]
      else [.single block isHeading]
  | block :: next :: rest =>
      if isHeading : block.isHeading then .kept block isHeading (some next) :: ofBlocks rest
      else .single block isHeading :: ofBlocks (next :: rest)

/-- Bundling leaves out no block and keeps their order. -/
theorem flatMap_blocks_ofBlocks
    (blocks : List Block) :
    (ofBlocks blocks).flatMap Bundle.blocks = blocks := by
  fun_induction ofBlocks blocks with
  | case1 | case2 | case3 =>
      rfl
  | case4 block next rest isHeading inductionHypothesis =>
      rw [List.flatMap_cons, inductionHypothesis]
      rfl
  | case5 block next rest notHeading inductionHypothesis =>
      rw [List.flatMap_cons, inductionHypothesis]
      rfl

theorem typeset_single
    (theme : Theme)
    (block : Block)
    (notHeading : ¬ block.isHeading) :
    typeset theme (.single block notHeading) = block.typeset theme :=
  List.append_nil _

/-- A heading with its follower is kept on one page. -/
theorem typeset_kept
    (theme : Theme)
    (block next : Block)
    (isHeading : block.isHeading) :
    typeset theme (.kept block isHeading (some next)) =
      Typst.keepTogether (block.typeset theme ++ next.typeset theme) := by
  rw [← List.append_nil (next.typeset theme)]
  rfl

/-- A heading without a follower is kept in one piece. -/
theorem typeset_kept_none
    (theme : Theme)
    (block : Block)
    (isHeading : block.isHeading) :
    typeset theme (.kept block isHeading none) = Typst.keepTogether (block.typeset theme) := by
  rw [← List.append_nil (block.typeset theme)]
  rfl

/-- Blocks are typeset bundle by bundle. -/
theorem flatMap_typeset_ofBlocks
    (theme : Theme)
    (blocks : List Block) :
    (ofBlocks blocks).flatMap (typeset theme) = Block.typesetAll theme blocks := by
  fun_induction ofBlocks blocks with
  | case1 =>
      rfl
  | case2 block isHeading =>
      rw [List.flatMap_singleton, typeset_kept_none]
      cases block with
      | heading level content =>
          rfl
      | _ =>
          cases isHeading
  | case3 block notHeading =>
      rw [List.flatMap_singleton, typeset_single, Block.typesetAll_cons notHeading,
        Block.typesetAll, List.append_nil]
  | case4 block next rest isHeading inductionHypothesis =>
      rw [List.flatMap_cons, typeset_kept, Block.typesetAll_heading isHeading,
        inductionHypothesis]
  | case5 block next rest notHeading inductionHypothesis =>
      rw [List.flatMap_cons, typeset_single, Block.typesetAll_cons notHeading,
        inductionHypothesis]

/-- The last block takes the next one along just when it is a heading alone in its bundle. -/
theorem any_isAlone_getLast?_ofBlocks
    (blocks : List Block) :
    (ofBlocks blocks).getLast?.any isAlone = Block.takesNext blocks := by
  fun_induction Block.takesNext blocks with
  | case1 =>
      rfl
  | case2 block =>
      rw [ofBlocks]
      split
      · next isHeading =>
          exact isHeading.symm
      · next notHeading =>
          exact (Bool.eq_false_iff.mpr notHeading).symm
  | case3 block next rest isHeading inductionHypothesis =>
      rw [ofBlocks, dif_pos isHeading, List.getLast?_cons, ← inductionHypothesis]
      cases (ofBlocks rest).getLast? with
      | none | some last =>
          rfl
  | case4 block next rest notHeading inductionHypothesis =>
      rw [ofBlocks, dif_neg notHeading, List.getLast?_cons, ← inductionHypothesis]
      cases (ofBlocks (next :: rest)).getLast? with
      | none | some last =>
          rfl

end Bundle

namespace Theme

/--
A guide is its preamble and, one after the other, the bundles of its blocks.  These hold
every block once and in order, as it is typeset on its own, with no more than a wrapper
around a heading and the one block after it.  So blocks behind others are typeset as
they are without them, unless those others end with a heading that is left alone.
-/
theorem typeset_eq_bundles
    (theme : Theme)
    (blocks : List Block) :
    theme.typeset blocks =
        theme.preamble ++ (Bundle.ofBlocks blocks).flatMap (Bundle.typeset theme) ∧
      (Bundle.ofBlocks blocks).flatMap Bundle.blocks = blocks ∧
      ∀ more,
        ¬ (Bundle.ofBlocks blocks).getLast?.any Bundle.isAlone →
        Block.typesetAll theme (blocks ++ more) =
          Block.typesetAll theme blocks ++ Block.typesetAll theme more := by
  refine ⟨?_, Bundle.flatMap_blocks_ofBlocks blocks, ?_⟩
  · rw [Bundle.flatMap_typeset_ofBlocks]
    rfl
  · intro more notAlone
    rw [Bundle.any_isAlone_getLast?_ofBlocks] at notAlone
    exact Block.typesetAll_append notAlone more

/-- A heading that has been taken along by another one does not take the next block along. -/
theorem typeset_eq_bundles_two_headings :
    let blocks : List Block := [.heading 1 [.text "A"], .heading 2 [.text "B"]]
    ¬ (Bundle.ofBlocks blocks).getLast?.any Bundle.isAlone ∧
      Block.typesetAll {} (blocks ++ [.paragraph [.text "c"]]) =
        Block.typesetAll {} blocks ++ Block.typesetAll {} [.paragraph [.text "c"]] := by
  intro blocks
  have notAlone : ¬ (Bundle.ofBlocks blocks).getLast?.any Bundle.isAlone := by
    simp [blocks, Bundle.ofBlocks, Block.isHeading, Bundle.isAlone]
  exact ⟨notAlone, (typeset_eq_bundles {} blocks).2.2 _ notAlone⟩

end Theme

end Guidebook
