import Guidebook.Proofs.Typst.Nesting
import Mathlib.Algebra.Group.Nat.Even
import Mathlib.Data.List.DropRight

namespace Guidebook

/-!
# What headings are kept with

A heading takes the block after it onto its page, and a block that is taken along
takes nothing along itself.  So headings in a run go two by two: a heading is kept
with the block after it when an even number of headings stands right in front of it,
and it is parted from that block when their number is odd.
-/

namespace Block

/-- Whether a block is a heading. -/
def isHeading : Block → Bool
  | .heading .. => true
  | _ => false

/-- The number of headings that some blocks end with. -/
def headingRun (blocks : List Block) : Nat :=
  (blocks.rtakeWhile isHeading).length

/-- Whether some blocks end with a heading that takes the next block along. -/
def takesNext : List Block → Bool
  | [] => false
  | [block] => block.isHeading
  | block :: next :: rest =>
      if block.isHeading then takesNext rest else takesNext (next :: rest)

/-- A heading takes the next block along, unless it is taken along itself. -/
theorem takesNext_concat
    (blocks : List Block)
    (block : Block) :
    takesNext (blocks ++ [block]) = (block.isHeading && !takesNext blocks) := by
  fun_induction takesNext blocks with
  | case1 =>
      simp [takesNext]
  | case2 first =>
      cases isFirst : first.isHeading with
      | true | false =>
          simp [takesNext, isFirst]
  | case3 first next rest isHeading inductionHypothesis =>
      rw [List.cons_append, List.cons_append, takesNext, if_pos isHeading]
      exact inductionHypothesis
  | case4 first next rest notHeading inductionHypothesis =>
      rw [List.cons_append, List.cons_append, takesNext, if_neg notHeading]
      exact inductionHypothesis

/-- A heading behind headings makes their run longer, and any other block ends it. -/
theorem headingRun_concat
    (blocks : List Block)
    (block : Block) :
    headingRun (blocks ++ [block]) = if block.isHeading then headingRun blocks + 1 else 0 := by
  rw [headingRun, List.rtakeWhile_concat]
  split
  · exact List.length_append
  · rfl

/-- Headings go two by two, so the last one of a run is left over if the run is odd. -/
theorem takesNext_iff
    (blocks : List Block) :
    takesNext blocks ↔ ¬ Even (headingRun blocks) := by
  induction blocks using List.reverseRecOn with
  | nil =>
      simp [takesNext, headingRun]
  | append_singleton blocks block inductionHypothesis =>
      rw [takesNext_concat, headingRun_concat]
      by_cases isHeading : block.isHeading
      · rw [if_pos isHeading, Nat.even_add_one, ← inductionHypothesis, isHeading]
        simp
      · rw [if_neg isHeading]
        simp [isHeading]

open Typst

variable
    {theme : Theme}
    {blocks : List Block}

/-- A heading is set with the block behind it. -/
theorem typesetAll_heading
    {block : Block}
    (isHeading : block.isHeading)
    (next : Block)
    (rest : List Block) :
    typesetAll theme (block :: next :: rest) =
      keepTogether (block.typeset theme ++ next.typeset theme) ++ typesetAll theme rest := by
  cases block with
  | heading level content =>
      rfl
  | _ =>
      cases isHeading

/-- Any block but a heading is set on its own. -/
theorem typesetAll_cons
    {block : Block}
    (notHeading : ¬ block.isHeading)
    (rest : List Block) :
    typesetAll theme (block :: rest) = block.typeset theme ++ typesetAll theme rest := by
  cases block with
  | heading level content =>
      exact (notHeading rfl).elim
  | _ =>
      rw [typesetAll]
      all_goals simp

/-- Blocks are typeset apart from those behind them, unless the last one takes the next along. -/
theorem typesetAll_append
    (complete : ¬ takesNext blocks)
    (more : List Block) :
    typesetAll theme (blocks ++ more) = typesetAll theme blocks ++ typesetAll theme more := by
  fun_induction takesNext blocks with
  | case1 =>
      rfl
  | case2 block =>
      rw [List.singleton_append, typesetAll_cons complete, typesetAll_cons complete]
      simp [typesetAll]
  | case3 block next rest isHeading inductionHypothesis =>
      rw [List.cons_append, List.cons_append, typesetAll_heading isHeading,
        typesetAll_heading isHeading, inductionHypothesis complete, List.append_assoc]
  | case4 block next rest notHeading inductionHypothesis =>
      rw [List.cons_append, typesetAll_cons notHeading, typesetAll_cons notHeading,
        inductionHypothesis complete, List.append_assoc]

end Block

namespace Theme

open Typst

/--
The markup keeps a block together with the block after it: one element that must not
be broken holds both, since nothing between its start, them and its end closes it.
-/
def KeepsTogether
    (theme : Theme)
    (before : List Block)
    (block next : Block)
    (after : List Block) :
    Prop :=
  ∃ outer front between back behind : Text,
    theme.typeset (before ++ block :: next :: after) =
        outer ++
          keepTogether
            (front ++ block.typeset theme ++ between ++ next.typeset theme ++ back) ++
          behind ∧
      Closed front ∧ Closed between ∧ Closed back

/-- The markup of a heading and what is around it, told by the run of headings in front. -/
theorem typeset_heading
    (theme : Theme)
    (before : List Block)
    (level : Nat)
    (content : List Span)
    (next : Block)
    (after : List Block) :
    theme.typeset (before ++ .heading level content :: next :: after) =
      if Even (Block.headingRun before) then
        theme.typeset before ++
          keepTogether (heading theme level content ++ next.typeset theme) ++
          Block.typesetAll theme after
      else
        theme.typeset (before ++ [.heading level content]) ++
          Block.typesetAll theme (next :: after) := by
  split
  · next isEven =>
      have complete : ¬ Block.takesNext before := by
        rw [Block.takesNext_iff]
        exact not_not_intro isEven
      rw [typeset, typeset, Block.typesetAll_append complete,
        Block.typesetAll_heading rfl, List.append_assoc, List.append_assoc]
      rfl
  · next isOdd =>
      have complete : ¬ Block.takesNext (before ++ [.heading level content]) := by
        rw [Block.takesNext_concat, (Block.takesNext_iff before).mpr isOdd]
        simp
      rw [List.append_cons, typeset, typeset, Block.typesetAll_append complete,
        List.append_assoc]

/--
A heading is kept together with the block after it, and with no other block, when the
number of headings right in front of it is even.  When it is odd, the heading ends the
element that it was taken into, and the block after it starts anew.
-/
theorem keepsTogether_heading
    (theme : Theme)
    (before : List Block)
    (level : Nat)
    (content : List Span)
    (next : Block)
    (after : List Block) :
    (Even (Block.headingRun before) →
        theme.KeepsTogether before (.heading level content) next after) ∧
      theme.typeset (before ++ .heading level content :: next :: after) =
        if Even (Block.headingRun before) then
          theme.typeset before ++
            keepTogether (heading theme level content ++ next.typeset theme) ++
            Block.typesetAll theme after
        else
          theme.typeset (before ++ [.heading level content]) ++
            Block.typesetAll theme (next :: after) := by
  have layout := theme.typeset_heading before level content next after
  refine ⟨?_, layout⟩
  intro isEven
  rw [if_pos isEven] at layout
  refine ⟨theme.typeset before, [], [], [], Block.typesetAll theme after, ?_, rfl, rfl, rfl⟩
  rw [layout, List.nil_append, List.append_nil, List.append_nil]
  rfl

/-- A heading that stands right behind another one is parted from the text after it. -/
theorem not_keepsTogether_behind_heading :
    ¬ ∀ (theme : Theme) (before : List Block) (level : Nat) (content : List Span) (next : Block)
        (after : List Block),
      theme.KeepsTogether before (.heading level content) next after := by
  intro keeps
  obtain ⟨outer, front, between, back, behind, markup, -, closedBetween, -⟩ :=
    keeps {} [.heading 1 [.text "A"]] 2 [.text "B"] (.paragraph [.text "c"]) []
  have headingMarkup :
      Block.typeset {} (.heading 2 [.text "B"]) = ['=', '=', '=', ' '] ++ 'B' :: ['\n', '\n'] := by
    rfl
  have paragraphMarkup : Block.typeset {} (.paragraph [.text "c"]) = ['c', '\n', '\n'] := by
    rfl
  -- The only `B` in the markup is that of the second heading.
  have wholeMarkup :
      typeset {} ([.heading 1 [.text "A"]] ++
          .heading 2 [.text "B"] :: .paragraph [.text "c"] :: []) =
        (preamble {} ++ "#block(breakable: false)[\n== A\n\n=== ".toList) ++
          'B' :: ['\n', '\n', ']', '\n', '\n', 'c', '\n', '\n'] := by
    rfl
  have noneBefore : 'B' ∉ preamble {} ++ "#block(breakable: false)[\n== A\n\n=== ".toList := by
    decide
  have noneBehind : 'B' ∉ ['\n', '\n', ']', '\n', '\n', 'c', '\n', '\n'] := by
    decide
  obtain ⟨opening, ending, isKept⟩ :
      ∃ opening ending : Text, ∀ content, keepTogether content = opening ++ content ++ ending :=
    ⟨_, _, fun _ => rfl⟩
  have regrouped :
      outer ++
          (opening ++
            (front ++ (['=', '=', '=', ' '] ++ 'B' :: ['\n', '\n']) ++ between ++
              ['c', '\n', '\n'] ++ back) ++
            ending) ++
          behind =
        (outer ++ opening ++ front ++ ['=', '=', '=', ' ']) ++
          'B' :: '\n' :: '\n' :: (between ++
            'c' :: (['\n', '\n'] ++ back ++ ending ++ behind)) := by
    simp
  rw [wholeMarkup, headingMarkup, paragraphMarkup, isKept, regrouped,
    List.append_cons_inj_of_notMem noneBefore noneBehind] at markup
  obtain ⟨-, -, behindB⟩ := markup
  have behindHeading := (List.cons.inj (List.cons.inj behindB).2).2
  -- Behind the heading the bracket that holds it is closed before anything else comes.
  cases between with
  | nil =>
      cases (List.cons.inj behindHeading).1
  | cons first rest =>
      cases (List.cons.inj behindHeading).1
      cases closedBetween

end Theme

end Guidebook
