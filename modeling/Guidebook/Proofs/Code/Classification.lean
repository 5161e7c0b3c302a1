import Guidebook.Proofs.Code.Layout

namespace Guidebook

/-!
# Classified lines

Classifying a line in one table that all rules share comes to the same as
dividing it by the rules one inside the other.  The invariant is the layout of
the table: after some of the rules, dividing its unowned parts by the remaining
rules gives the division by all of them.
-/

namespace Layout

variable
    {line : Text}
    {table : Ownership}
    {done todo : List Holding}

/-- A sweep goes past characters that have owners already. -/
theorem sweep_owned
    (rule : Rule)
    {start length : Nat}
    (owned : ∀ index < length, (table.ownerAt (start + index)).isSome)
    (within : start + length ≤ line.length) :
    table.sweep rule line start = table.sweep rule line (start + length) := by
  induction length with
  | zero =>
      rfl
  | succ length inductionHypothesis =>
      have here : start + length < line.length := within
      have isOwned := owned length (Nat.lt_succ_self length)
      rw [inductionHypothesis
        (fun index inside => owned index (Nat.lt_succ_of_lt inside)) here.le,
        Ownership.sweep, if_pos here, if_pos isOwned, Nat.add_assoc]

/-- A sweep that starts at the end of the line changes nothing. -/
theorem sweep_end
    (layout : Layout line table done)
    (rule : Rule) :
    table.sweep rule line (done.flatMap Holding.text).length = table := by
  rw [layout.texts, Ownership.sweep, if_neg (Nat.lt_irrefl _)]

theorem length_flatMap_text_concat
    (done : List Holding)
    (holding : Holding) :
    ((done ++ [holding]).flatMap Holding.text).length =
      (done.flatMap Holding.text).length + holding.text.length := by
  simp

/-- A sweep that has come to a holding keeps it or, if it is unowned, splits it. -/
theorem sweep_holding
    {holding : Holding}
    (layout : Layout line table (done ++ holding :: todo))
    (rule : Rule) :
    ∃ split further,
      table.sweep rule line (done.flatMap Holding.text).length =
        Ownership.sweep further rule line ((done ++ split).flatMap Holding.text).length ∧
      Split line table further done split todo
        (fun gap => holding.fragments table.kinds (rule.cut gap)) := by
  have layoutBehind : Layout line table (done ++ [holding] ++ todo) := by
    simpa using layout
  obtain ⟨owner, part⟩ := holding
  cases owner with
  | some id =>
      refine ⟨[⟨some id, part⟩], table, ?_, layoutBehind, List.prefix_refl _, fun _ => rfl⟩
      rw [length_flatMap_text_concat]
      apply sweep_owned rule
      · intro index inside
        rw [layout.ownerAt_eq inside]
        rfl
      · exact layout.length_le
  | none =>
      by_cases isEmpty : part = []
      · -- A part of no places is not seen by the sweep.
        subst isEmpty
        refine ⟨[⟨none, []⟩], table, ?_, layoutBehind, List.prefix_refl _, ?_⟩
        · rw [length_flatMap_text_concat]
          rfl
        · intro gap
          simp [Holding.fragments]
      · obtain ⟨split, isSplit⟩ := layout.claim rule
        refine ⟨split, _, ?_, isSplit⟩
        obtain ⟨inside, unowned⟩ := layout.ownerAt_start isEmpty
        rw [Ownership.sweep, if_pos inside, unowned, if_neg (by simp),
          layout.nextChange_eq isEmpty, layout.length_flatMap_text_eq isSplit.layout]

/--
A sweep from a holding on leaves the holdings before it alone, keeps those that
are owned and splits those that are not as the rule cuts them.
-/
theorem sweep
    (layout : Layout line table (done ++ todo))
    (rule : Rule) :
    ∃ split,
      Split line table (table.sweep rule line (done.flatMap Holding.text).length)
        done split []
        (fun gap => todo.flatMap (Holding.fragments table.kinds (rule.cut gap))) := by
  induction todo generalizing table done with
  | nil =>
      rw [List.append_nil] at layout
      rw [layout.sweep_end rule]
      exact ⟨[], by simpa using layout, List.prefix_refl _, fun _ => rfl⟩
  | cons holding todo inductionHypothesis =>
      obtain ⟨first, between, sweptFirst, firstSplit⟩ := layout.sweep_holding rule
      obtain ⟨rest, restSplit⟩ := inductionHypothesis firstSplit.layout
      rw [sweptFirst]
      refine ⟨first ++ rest, by simpa using restSplit.layout,
        firstSplit.grown.trans restSplit.grown, ?_⟩
      intro gap
      -- Claims made further on leave the kinds of those made so far as they are.
      have firstKnown := firstSplit.layout.known_of_sublist
        ((List.sublist_append_right done first).trans (List.sublist_append_left _ todo))
      have todoKnown := layout.known_of_sublist
        ((List.sublist_cons_self holding todo).trans (List.sublist_append_right done _))
      rw [List.flatMap_append, List.flatMap_cons, restSplit.divided,
        Holding.flatMap_fragments_of_prefix restSplit.grown firstKnown, firstSplit.divided,
        Holding.flatMap_fragments_of_prefix firstSplit.grown todoKnown]

/-- The fragments read off a table are those of its holdings that are not empty. -/
theorem fragmentsFrom_eq
    (layout : Layout line table (done ++ todo)) :
    table.fragmentsFrom line (done.flatMap Holding.text).length =
      todo.flatMap (Holding.fragments table.kinds (Rule.divide [])) := by
  induction todo generalizing done with
  | nil =>
      rw [List.append_nil] at layout
      rw [layout.texts, Ownership.fragmentsFrom, if_neg (Nat.lt_irrefl _)]
      rfl
  | cons holding todo inductionHypothesis =>
      have layoutBehind : Layout line table (done ++ [holding] ++ todo) := by
        simpa using layout
      have later := inductionHypothesis layoutBehind
      rw [length_flatMap_text_concat] at later
      by_cases isEmpty : holding.text = []
      · have unowned : holding.owner = none := by
          by_contra isOwned
          exact layout.nonempty holding (by simp) isOwned isEmpty
        rw [isEmpty, List.length_nil, Nat.add_zero] at later
        rw [later, List.flatMap_cons, Holding.fragments, unowned, isEmpty]
        rfl
      · obtain ⟨inside, owned⟩ := layout.ownerAt_start isEmpty
        rw [Ownership.fragmentsFrom, if_pos inside, layout.nextChange_eq isEmpty, owned]
        simp only [layout.slice_eq, later, List.flatMap_cons]
        cases isOwned : holding.owner with
        | none =>
            simp [Holding.fragments, isOwned, Rule.divide, isEmpty, Fragment.plain]
        | some id =>
            simp [Holding.fragments, isOwned]

/-- The remaining rules divide the unowned parts of a line and read the result off. -/
theorem foldl_sweep
    {holdings : List Holding}
    (layout : Layout line table holdings)
    (rules : List Rule) :
    (rules.foldl (fun table rule => table.sweep rule line 0) table).fragmentsFrom line 0 =
      holdings.flatMap (Holding.fragments table.kinds (Rule.divide rules)) := by
  -- On the rules that remain: each of them is swept over the whole line before the next one.
  induction rules generalizing table holdings with
  | nil =>
      have whole : Layout line table ([] ++ holdings) := layout
      exact whole.fragmentsFrom_eq
  | cons rule rules inductionHypothesis =>
      have whole : Layout line table ([] ++ holdings) := layout
      obtain ⟨split, isSplit⟩ := whole.sweep rule
      have splitLayout : Layout line (table.sweep rule line 0) split := by
        simpa using isSplit.layout
      rw [List.foldl_cons, inductionHypothesis splitLayout]
      exact isSplit.divided (Rule.divide rules)

end Layout

/-- Before any claim all of a line is one unowned part. -/
theorem layout_unclaimed
    (line : Text) :
    Layout line (Ownership.unclaimed line) [⟨none, line⟩] where
  texts := by
    simp
  owners := by
    simp [Ownership.unclaimed, Holding.owners]
  apart :=
    .singleton _
  nonempty := by
    simp
  distinct := by
    simp
  known := by
    simp

/-- Classifying a line in a table is dividing it. -/
theorem Rule.classify_eq_divide
    (rules : List Rule)
    (line : Text) :
    classify rules line = divide rules line := by
  rw [classify, (layout_unclaimed line).foldl_sweep rules]
  simp [Holding.fragments]

namespace Language

/--
A line in a language is divided by its rules one inside the other: the claims of
the first one cut it, and the gaps are divided by the others as texts of their
own.  After any number of the rules, what is classified stays as it is, and what
is plain is divided by the remaining ones.
-/
theorem highlightLine_eq_divide
    (language : Language)
    (line : Text) :
    language.highlightLine line = Rule.divide language.rules line ∧
      ∀ count,
        language.highlightLine line =
          (Rule.classify (language.rules.take count) line).flatMap
            (Rule.divideFragment (language.rules.drop count)) := by
  constructor
  · exact Rule.classify_eq_divide language.rules line
  · intro count
    rw [highlightLine, Rule.classify_eq_divide, Rule.classify_eq_divide, ← Rule.divide_append,
      List.take_append_drop]

/-! A comment is claimed before a string is, even inside quotes. -/

example :
    bash.highlightLine ['"', '#', '"'] =
      [Fragment.plain ['"'], Fragment.classified .comment ['#', '"']] := by
  cbv

/-- The fragments of highlighted code make up its lines. -/
theorem map_flatMap_text_highlight
    (language : Language)
    (code : Text) :
    (language.highlight code).map (·.flatMap Fragment.text) = code.lines := by
  have keepsLine
      (line : Text) :
      (language.highlightLine line).flatMap Fragment.text = line := by
    rw [highlightLine, Rule.classify_eq_divide, Rule.flatMap_text_divide]
  rw [highlight, List.map_map]
  exact (List.map_congr_left fun line _ => keepsLine line).trans (List.map_id _)

/--
Highlighted code has one list of fragments for each of its lines, and they make
up that line.  No line, even with line feeds in it, has an empty fragment or two
plain ones next to each other.
-/
theorem highlight_keeps_lines :
    (∀ tag code : Text,
      ((ofTag tag).highlight code).map (·.flatMap Fragment.text) = code.lines) ∧
    ∀ (language : Language) (line : Text),
      (∀ fragment ∈ language.highlightLine line, fragment.text ≠ []) ∧
        (language.highlightLine line).IsChain Fragment.NotBothPlain := by
  constructor
  · intro tag code
    exact map_flatMap_text_highlight (ofTag tag) code
  · intro language line
    rw [highlightLine, Rule.classify_eq_divide]
    exact ⟨fun _ => Rule.text_ne_nil_of_mem_divide, Rule.isChain_divide _ line⟩

end Language

end Guidebook
