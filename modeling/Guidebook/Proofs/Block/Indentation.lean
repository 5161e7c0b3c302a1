import Guidebook.Proofs.Block.Continuation
import Guidebook.Proofs.Text.Indenting
import Mathlib.Data.List.ReduceOption
import Mathlib.Order.Monotone.Basic

namespace Guidebook

/-!
# Lists that are moved to the right

A list is built from the order of its indents alone.  But the blanks in front of
the whole text are trimmed away first, so that the first item always stands at
the margin: when a text that is one list is moved to the right as a whole, the
others move away from the first item, and those that stood at the margin with it
become items of a list inside it.
-/

/-- The lines of a text that are not blank, with the blanks around them. -/
def Text.solidLines (text : Text) : List Line :=
  (text.splitOn '\n').filter (!·.isBlankLine)

/-- Whether a line of this kind is an item. -/
def LineKind.isItem : LineKind → Bool
  | .item _ _ => true
  | _ => false

/-- A kind that is an item has an order and a body. -/
theorem LineKind.exists_of_isItem
    {kind : LineKind}
    (isItem : kind.isItem) :
    ∃ ordered body, kind = .item ordered body := by
  cases kind with
  | item ordered body =>
      exact ⟨ordered, body, rfl⟩
  | _ =>
      cases isItem

/-- What a list takes notice of in a line that is not blank. -/
structure Indented where
  indent : Nat
  kind : LineKind

namespace Indented

/-- A line that is not blank, as a list sees it. -/
def ofLine (line : Line) : Indented :=
  ⟨line.indent, LineKind.of line⟩

/-- Lines as a list sees them, without the blank ones. -/
def ofLines (lines : List Line) : List Indented :=
  (lines.filter (!·.isBlankLine)).map ofLine

/-- The same line at the margin. -/
def unindented (line : Indented) : Indented :=
  { line with indent := 0 }

/-- The same line so much further to the right. -/
def shift (count : Nat) (line : Indented) : Indented :=
  { line with indent := count + line.indent }

/-- The entry of a line that is an item. -/
def entryAt? (line : Indented) : Option Entry :=
  match line.kind with
  | .item ordered body => some ⟨line.indent, ordered, Item.ofBody body⟩
  | _ => none

/-- The list that the first line begins, when it is an item and the others belong to it. -/
def list? : List Indented → Option Block
  | [] => none
  | first :: others =>
      first.entryAt?.map fun entry => .list (ItemList.ofEntries entry (others.filterMap entryAt?))

/-- A blank line in front is not looked at. -/
theorem ofLines_cons_of_blank
    {line : Line}
    (blank : line.isBlankLine)
    (rest : List Line) :
    ofLines (line :: rest) = ofLines rest := by
  rw [ofLines, List.filter_cons_of_neg (by simpa using blank)]
  rfl

/-- A line in front that is not blank is looked at first. -/
theorem ofLines_cons
    {line : Line}
    (notBlank : ¬ line.isBlankLine)
    (rest : List Line) :
    ofLines (line :: rest) = ofLine line :: ofLines rest := by
  rw [ofLines, List.filter_cons_of_pos (by simpa using notBlank)]
  rfl

/-- What is seen of lines behind others comes behind what is seen of those. -/
theorem ofLines_append
    (front back : List Line) :
    ofLines (front ++ back) = ofLines front ++ ofLines back := by
  rw [ofLines, List.filter_append, List.map_append]
  rfl

/-- A line in front of lines that look the same leaves them looking the same. -/
theorem ofLines_cons_congr
    (line : Line)
    {lines others : List Line}
    (same : ofLines lines = ofLines others) :
    ofLines (line :: lines) = ofLines (line :: others) := by
  have front := ofLines_append [line]
  exact (front lines).trans (same ▸ (front others).symm)

/-- Blanks at the end of a line are not noticed. -/
theorem ofLines_append_blank
    (line : Line)
    {blanks : Text}
    (blank : blanks.isBlankLine)
    (rest : List Line) :
    ofLines ((line ++ blanks) :: rest) = ofLines (line :: rest) := by
  by_cases lineBlank : line.isBlankLine
  · have wholeBlank : (line ++ blanks).isBlankLine := by
      rw [Text.isBlankLine_append, lineBlank, blank]
      rfl
    rw [ofLines_cons_of_blank wholeBlank, ofLines_cons_of_blank lineBlank]
  · have wholeNotBlank : ¬ (line ++ blanks).isBlankLine := by
      rw [Text.isBlankLine_append, Bool.and_eq_true]
      exact fun bothBlank => lineBlank bothBlank.1
    rw [ofLines_cons wholeNotBlank, ofLines_cons lineBlank, ofLine, Text.indent_append lineBlank,
      seesAlike_of.ignoresBlanksBehind line blanks lineBlank blank]
    rfl

/-! ## What trimming and line ends change -/

theorem modifyHead_nil_append
    (lines : List Line) :
    lines.modifyHead ([] ++ ·) = lines := by
  cases lines with
  | nil | cons =>
      rfl

/--
A carriage return that belongs to a line end is one of the blanks that are not
noticed, also when the first line was begun further in front.
-/
theorem ofLines_foldr_consFirst
    (front text : Text) :
    ofLines (front.foldr consFirst text.lines) =
      ofLines ((text.splitOn '\n').modifyHead (front ++ ·)) := by
  fun_induction Text.lines text generalizing front with
  | case1 =>
      rw [List.splitOn_nil, List.modifyHead_cons, List.append_nil]
      rcases List.eq_nil_or_concat' front with isNil | ⟨before, last, isConcat⟩
      · rw [isNil]
        rfl
      · rw [isConcat, List.foldr_append]
        exact congrArg ofLines (foldr_consFirst_cons before [last] [])
  | case2 rest inductionHypothesis =>
      have notFeed : '\r' ≠ '\n' := by
        decide
      have sameRest : ofLines (Text.lines rest) = ofLines (rest.splitOn '\n') :=
        (inductionHypothesis []).trans (congrArg ofLines (modifyHead_nil_append _))
      rw [foldr_consFirst_cons, Text.splitOn_cons_of_ne notFeed, Text.splitOn_cons_newline,
        List.modifyHead_cons, List.modifyHead_cons, List.append_nil, ofLines_append_blank front rfl]
      exact ofLines_cons_congr front sameRest
  | case3 rest inductionHypothesis =>
      have sameRest : ofLines (Text.lines rest) = ofLines (rest.splitOn '\n') :=
        (inductionHypothesis []).trans (congrArg ofLines (modifyHead_nil_append _))
      rw [foldr_consFirst_cons, Text.splitOn_cons_newline, List.modifyHead_cons, List.append_nil]
      exact ofLines_cons_congr front sameRest
  | case4 character rest noReturn noFeed inductionHypothesis =>
      have begun := inductionHypothesis (front ++ [character])
      rw [List.foldr_append] at begun
      rw [Text.splitOn_cons_of_ne noFeed, List.modifyHead_modifyHead]
      simpa [Function.comp_def] using begun

/-- Carriage returns at the ends of lines are not seen. -/
theorem ofLines_lines
    (text : Text) :
    ofLines text.lines = ofLines (text.splitOn '\n') :=
  (ofLines_foldr_consFirst [] text).trans (congrArg ofLines (modifyHead_nil_append _))

/-- A blank in front of a line is noticed in its indent only. -/
theorem modifyHead_unindented_cons
    {character : Char}
    (blank : isBlank character)
    (line : Line)
    (rest : List Line) :
    (ofLines ((character :: line) :: rest)).modifyHead unindented =
      (ofLines (line :: rest)).modifyHead unindented := by
  have leadBlank : Text.isBlankLine [character] := by
    rw [Text.isBlankLine_iff, List.forall_mem_singleton]
    exact blank
  have sameBlank : Text.isBlankLine (character :: line) = Text.isBlankLine line := by
    rw [← List.singleton_append, Text.isBlankLine_append, leadBlank, Bool.true_and]
  by_cases lineBlank : Text.isBlankLine line
  · rw [ofLines_cons_of_blank (sameBlank.trans lineBlank), ofLines_cons_of_blank lineBlank]
  · have sameKind : LineKind.of (character :: line) = LineKind.of line :=
      congrArg LineKind.ofTrimmed (Text.trim_blank_append leadBlank line)
    rw [ofLines_cons (sameBlank ▸ lineBlank), ofLines_cons lineBlank, List.modifyHead_cons,
      List.modifyHead_cons, unindented, ofLine, sameKind]
    rfl

/-- Trimming a text in front puts its first line that is not blank at the margin. -/
theorem ofLines_trimStart
    (text : Text) :
    ofLines (text.trimStart.splitOn '\n') =
      (ofLines (text.splitOn '\n')).modifyHead unindented := by
  induction text with
  | nil =>
      rfl
  | cons character rest inductionHypothesis =>
      by_cases blank : isBlank character
      · have trimmed : Text.trimStart (character :: rest) = Text.trimStart rest :=
          List.dropWhile_cons_of_pos blank
        rw [trimmed, inductionHypothesis]
        by_cases isFeed : character = '\n'
        · rw [isFeed, Text.splitOn_cons_newline]
          rfl
        · obtain ⟨first, others, shape⟩ := Text.exists_splitOn_eq_cons rest
          rw [Text.splitOn_cons_of_ne isFeed, shape, List.modifyHead_cons,
            modifyHead_unindented_cons blank]
      · have untrimmed : Text.trimStart (character :: rest) = character :: rest :=
          List.dropWhile_cons_of_neg blank
        have notFeed : character ≠ '\n' := by
          rintro rfl
          exact blank rfl
        obtain ⟨first, others, shape⟩ := Text.exists_splitOn_eq_cons rest
        have notBlank : ¬ Text.isBlankLine (character :: first) := by
          rw [Text.isBlankLine_iff]
          exact fun allBlank => blank (allBlank character List.mem_cons_self)
        have atMargin : Text.indent (character :: first) = 0 := by
          rw [Text.indent, List.takeWhile_cons_of_neg blank, List.length_nil]
        rw [untrimmed, Text.splitOn_cons_of_ne notFeed, shape, List.modifyHead_cons,
          ofLines_cons notBlank, List.modifyHead_cons, unindented, ofLine, atMargin]

/-- Blanks at the end of a text are not seen. -/
theorem ofLines_trimEnd
    (text : Text) :
    ofLines (text.trimEnd.splitOn '\n') = ofLines (text.splitOn '\n') := by
  induction text using List.reverseRecOn with
  | nil =>
      rfl
  | append_singleton front character inductionHypothesis =>
      by_cases blank : Text.isBlankLine [character]
      · rw [Text.trimEnd_append_of_blank front blank, inductionHypothesis]
        by_cases isFeed : character = '\n'
        · rw [isFeed, List.splitOn_append_cons_self, List.splitOn_nil, ofLines_append]
          exact (List.append_nil _).symm
        · obtain ⟨lines, last, shape, longer⟩ := Text.exists_splitOn_concat front isFeed
          rw [shape, longer, ofLines_append, ofLines_append, ofLines_append_blank last blank]
      · have untrimmed : Text.trimEnd [character] = [character] := by
          rw [Text.trimEnd, List.reverse_singleton, List.dropWhile_cons_of_neg]
          · rfl
          · simpa [Text.isBlankLine] using blank
        rw [Text.trimEnd_append front blank, untrimmed]

/-- The lines of a trimmed text, as a list sees them. -/
theorem ofLines_lines_trim
    (text : Text) :
    ofLines text.trim.lines = (ofLines (text.splitOn '\n')).modifyHead unindented := by
  rw [ofLines_lines, Text.trim, ofLines_trimEnd, ofLines_trimStart]

/-- Moving a text to the right moves every line that a list sees. -/
theorem ofLines_indentLines
    (count : Nat)
    (text : Text) :
    ofLines ((text.indentLines count).splitOn '\n') =
      (ofLines (text.splitOn '\n')).map (shift count) := by
  rw [Text.splitOn_indentLines]
  induction text.splitOn '\n' with
  | nil =>
      rfl
  | cons line rest inductionHypothesis =>
      rw [List.map_cons]
      by_cases blank : Text.isBlankLine line
      · rw [ofLines_cons_of_blank ((Text.isBlankLine_indentLine count line).trans blank),
          ofLines_cons_of_blank blank, inductionHypothesis]
      · have movedNotBlank : ¬ (Text.indentLine count line).isBlankLine := by
          rw [Text.isBlankLine_indentLine]
          exact blank
        have moved : ofLine (Text.indentLine count line) = (ofLine line).shift count := by
          rw [ofLine, Text.indent_indentLine count blank, LineKind.of, Text.trim_indentLine]
          rfl
        rw [ofLines_cons movedNotBlank, ofLines_cons blank, List.map_cons, moved,
          inductionHypothesis]

/-- A list that is moved as a whole is still made of items only. -/
theorem isItem_of_mem_indentLines
    {text : Text}
    (onlyItems : ∀ line ∈ ofLines (text.splitOn '\n'), line.kind.isItem)
    (count : Nat) :
    ∀ line ∈ ofLines ((text.indentLines count).splitOn '\n'), line.kind.isItem := by
  rw [ofLines_indentLines, List.forall_mem_map]
  exact onlyItems

end Indented

/-! ## Lists made of all lines -/

/-- Blank lines and items that are indented as far as a list all belong to it. -/
theorem takeLeading_entryOf?
    {base : Nat}
    {lines : List Line}
    (onlyItems : ∀ line ∈ Indented.ofLines lines, line.kind.isItem)
    (inside : ∀ line ∈ Indented.ofLines lines, base ≤ line.indent) :
    (takeLeading (entryOf? base) lines).1.reduceOption =
        (Indented.ofLines lines).filterMap Indented.entryAt? ∧
      (takeLeading (entryOf? base) lines).2 = [] := by
  induction lines with
  | nil =>
      exact ⟨rfl, rfl⟩
  | cons line rest inductionHypothesis =>
      by_cases blank : line.isBlankLine
      · have noEntry : entryOf? base line = some none := by
          rw [entryOf?, LineKind.of_eq_blank blank]
        rw [Indented.ofLines_cons_of_blank blank] at onlyItems inside ⊢
        rw [takeLeading, noEntry, List.reduceOption_cons_of_none]
        exact inductionHypothesis onlyItems inside
      · rw [Indented.ofLines_cons blank] at onlyItems inside ⊢
        obtain ⟨firstIsItem, restAreItems⟩ := List.forall_mem_cons.mp onlyItems
        obtain ⟨firstInside, restInside⟩ := List.forall_mem_cons.mp inside
        obtain ⟨ordered, body, isItem⟩ := LineKind.exists_of_isItem firstIsItem
        have lineIsItem : LineKind.of line = .item ordered body := isItem
        have hasEntry :
            entryOf? base line = some (some ⟨line.indent, ordered, Item.ofBody body⟩) := by
          rw [entryOf?, lineIsItem]
          exact if_pos firstInside
        obtain ⟨sameEntries, nothingLeft⟩ := inductionHypothesis restAreItems restInside
        rw [takeLeading, hasEntry, List.reduceOption_cons_of_some, sameEntries]
        refine ⟨?_, nothingLeft⟩
        rw [List.filterMap_cons, Indented.entryAt?, isItem]
        rfl

/-- A line that is an item begins the list of its own entry and those that carry it on. -/
theorem Block.take_of_item
    {line : Line}
    {ordered : Bool}
    {body : Text}
    (isItem : LineKind.of line = .item ordered body)
    (rest : List Line) :
    take line rest =
      (some (.list (ItemList.ofEntries ⟨line.indent, ordered, Item.ofBody body⟩
          (takeLeading (entryOf? line.indent) rest).1.reduceOption)),
        (takeLeading (entryOf? line.indent) rest).2) := by
  simp only [take, isItem]

/-- Lines that are all items of the list that the first one begins. -/
theorem ofLines_eq_list?
    {lines : List Line}
    (onlyItems : ∀ line ∈ Indented.ofLines lines, line.kind.isItem)
    (inside :
      ∀ first ∈ (Indented.ofLines lines).head?,
        ∀ line ∈ Indented.ofLines lines, first.indent ≤ line.indent) :
    Block.ofLines lines = (Indented.list? (Indented.ofLines lines)).toList := by
  induction lines with
  | nil =>
      rw [Block.ofLines]
      rfl
  | cons line rest inductionHypothesis =>
      rw [Block.ofLines_cons]
      by_cases blank : line.isBlankLine
      · rw [Indented.ofLines_cons_of_blank blank] at onlyItems inside ⊢
        rw [Block.take, LineKind.of_eq_blank blank]
        exact inductionHypothesis onlyItems inside
      · rw [Indented.ofLines_cons blank] at onlyItems inside ⊢
        obtain ⟨firstIsItem, restAreItems⟩ := List.forall_mem_cons.mp onlyItems
        obtain ⟨ordered, body, isItem⟩ := LineKind.exists_of_isItem firstIsItem
        have lineIsItem : LineKind.of line = .item ordered body := isItem
        have restInside : ∀ other ∈ Indented.ofLines rest, line.indent ≤ other.indent :=
          (List.forall_mem_cons.mp (inside _ rfl)).2
        obtain ⟨sameEntries, nothingLeft⟩ := takeLeading_entryOf? restAreItems restInside
        rw [Block.take_of_item lineIsItem, sameEntries, nothingLeft, Block.ofLines, List.append_nil,
          Indented.list?, Indented.entryAt?, isItem]
        rfl

/-- The same entry at the place where its indent is moved to. -/
def Entry.reindent (moved : Nat → Nat) (entry : Entry) : Entry :=
  { entry with indent := moved entry.indent }

namespace ItemList

/-- Only the order of the indents counts. -/
theorem nest_reindent
    {moved : Nat → Nat}
    (increasing : StrictMono moved)
    (levels indent : Nat)
    (current : Item)
    (entries : List Entry) :
    nest levels (moved indent) current (entries.map (Entry.reindent moved)) =
      nest levels indent current entries := by
  fun_induction nest levels indent current entries with
  | case1 levels indent current =>
      rw [List.map_nil, nest]
  | case2 levels indent current entry rest deeper inside outside nested sameNested _ sameOutside =>
      have deeperToo : moved indent < (entry.reindent moved).indent ∧ 0 < levels :=
        ⟨increasing deeper.1, deeper.2⟩
      have sameOrder :
          (fun other : Entry => decide ((entry.reindent moved).indent ≤ other.indent)) ∘
              Entry.reindent moved =
            fun other => decide (entry.indent ≤ other.indent) := by
        funext other
        exact decide_eq_decide.mpr increasing.le_iff_le
      rw [List.map_cons, nest, if_pos deeperToo, List.takeWhile_map, List.dropWhile_map, sameOrder]
      show nest levels (moved indent)
          (current.attach
            (.mk entry.ordered
              (nest (levels - 1) (moved entry.indent) entry.item
                (inside.map (Entry.reindent moved)))))
          (outside.map (Entry.reindent moved)) =
        nest levels indent (current.attach (.mk entry.ordered nested)) outside
      rw [sameNested, sameOutside]
  | case3 levels indent current entry rest notDeeper sameRest =>
      have notDeeperToo : ¬ (moved indent < (entry.reindent moved).indent ∧ 0 < levels) :=
        fun deeper => notDeeper ⟨increasing.lt_iff_lt.mp deeper.1, deeper.2⟩
      rw [List.map_cons, nest, if_neg notDeeperToo, ← sameRest]
      rfl

/-- A list has an item for each entry that is indented no further than the list. -/
theorem length_nest
    {levels : Nat}
    (mayNest : 0 < levels)
    (indent : Nat)
    (current : Item)
    (entries : List Entry) :
    (nest levels indent current entries).length = entries.countP (·.indent ≤ indent) + 1 := by
  fun_induction nest levels indent current entries with
  | case1 levels indent current =>
      rfl
  | case2 levels indent current entry rest deeper inside outside nested _ _ lengthOutside =>
      have noneInside : inside.countP (·.indent ≤ indent) = 0 := by
        rw [List.countP_eq_zero]
        intro other member
        have further := List.mem_takeWhile_imp member
        rw [decide_eq_true_iff] at further
        simpa using Nat.lt_of_lt_of_le deeper.1 further
      have divided : inside ++ outside = rest :=
        List.takeWhile_append_dropWhile
      rw [lengthOutside mayNest, List.countP_cons_of_neg (by simpa using deeper.1), ← divided,
        List.countP_append, noneInside, Nat.zero_add]
  | case3 levels indent current entry rest notDeeper lengthRest =>
      have noFurther : entry.indent ≤ indent :=
        Nat.le_of_not_lt fun deeper => notDeeper ⟨deeper, mayNest⟩
      rw [List.length_cons, lengthRest mayNest, List.countP_cons_of_pos (by simpa using noFurther)]

/-- A move to the right that leaves the margin itself where it is. -/
def moveOffMargin (count indent : Nat) : Nat :=
  if indent = 0 then 0 else count + indent

/-- Moving off the margin keeps the order of indents. -/
theorem strictMono_moveOffMargin
    (count : Nat) :
    StrictMono (moveOffMargin count) := by
  intro first second less
  rw [moveOffMargin, moveOffMargin, if_neg (Nat.ne_zero_of_lt less)]
  split
  · exact Nat.add_pos_right count (Nat.zero_lt_of_lt less)
  · exact Nat.add_lt_add_left less count

/--
Entries that all move to the right, away from a list at the margin, nest as
before just when none of them stood at the margin.
-/
theorem nest_shift_eq_iff
    {levels : Nat}
    (mayNest : 0 < levels)
    (count : Nat)
    (current : Item)
    (entries : List Entry) :
    nest levels 0 current (entries.map (Entry.reindent (count + ·))) =
        nest levels 0 current entries ↔
      count = 0 ∨ ∀ entry ∈ entries, 0 < entry.indent := by
  constructor
  · intro same
    rcases Nat.eq_zero_or_pos count with isZero | positive
    · exact .inl isZero
    · right
      have noneLeft :
          (entries.map (Entry.reindent (count + ·))).countP (·.indent ≤ 0) = 0 := by
        rw [List.countP_eq_zero, List.forall_mem_map]
        intro entry _
        simpa [Entry.reindent] using fun isZero _ => positive.ne' isZero
      have sameLength := congrArg List.length same
      rw [length_nest mayNest, length_nest mayNest, noneLeft, Nat.add_right_cancel_iff, eq_comm,
        List.countP_eq_zero] at sameLength
      intro entry member
      simpa [Nat.pos_iff_ne_zero] using sameLength entry member
  · rintro (isZero | deeper)
    · have unmoved : Entry.reindent (count + ·) = id := by
        funext entry
        rw [isZero, Entry.reindent, Nat.zero_add]
        rfl
      rw [unmoved, List.map_id]
    · have sameEntries :
          entries.map (Entry.reindent (count + ·)) =
            entries.map (Entry.reindent (moveOffMargin count)) := by
        rw [List.map_inj_left]
        intro entry member
        rw [Entry.reindent, Entry.reindent, moveOffMargin, if_neg (deeper entry member).ne']
      rw [sameEntries]
      exact nest_reindent (strictMono_moveOffMargin count) levels 0 current entries

end ItemList

namespace Indented

/-- Lines that are moved give the same entries, further in. -/
theorem filterMap_entryAt?_shift
    (count : Nat)
    (lines : List Indented) :
    (lines.map (shift count)).filterMap entryAt? =
      (lines.filterMap entryAt?).map (Entry.reindent (count + ·)) := by
  rw [List.filterMap_map, List.map_filterMap]
  congr 1
  funext line
  cases isKind : line.kind with
  | item ordered body =>
      simp only [Function.comp_apply, entryAt?, shift, isKind]
      rfl
  | _ =>
      simp only [Function.comp_apply, entryAt?, shift, isKind]
      rfl

/-- Where all lines are items, the indents of the entries are those of the lines. -/
theorem forall_indent_filterMap_entryAt?
    {lines : List Indented}
    (onlyItems : ∀ line ∈ lines, line.kind.isItem)
    (holds : Nat → Prop) :
    (∀ entry ∈ lines.filterMap entryAt?, holds entry.indent) ↔
      ∀ line ∈ lines, holds line.indent := by
  induction lines with
  | nil =>
      simp
  | cons line rest inductionHypothesis =>
      obtain ⟨firstIsItem, restAreItems⟩ := List.forall_mem_cons.mp onlyItems
      obtain ⟨ordered, body, isItem⟩ := LineKind.exists_of_isItem firstIsItem
      have hasEntry : line.entryAt? = some ⟨line.indent, ordered, Item.ofBody body⟩ := by
        rw [entryAt?, isItem]
      rw [List.filterMap_cons, hasEntry]
      dsimp only
      rw [List.forall_mem_cons, List.forall_mem_cons, inductionHypothesis restAreItems]

end Indented

namespace Block

/-- A text of nothing but items is one list, whose first item stands at the margin. -/
theorem read_of_items
    {text : Text}
    (onlyItems : ∀ line ∈ Indented.ofLines (text.splitOn '\n'), line.kind.isItem) :
    read text =
      (Indented.list?
        ((Indented.ofLines (text.splitOn '\n')).modifyHead Indented.unindented)).toList := by
  rw [← Indented.ofLines_lines_trim, read]
  apply ofLines_eq_list?
  · rw [Indented.ofLines_lines_trim]
    cases shape : Indented.ofLines (text.splitOn '\n') with
    | nil =>
        exact List.forall_mem_nil _
    | cons first others =>
        rw [shape] at onlyItems
        exact List.forall_mem_cons.mpr (List.forall_mem_cons.mp onlyItems)
  · rw [Indented.ofLines_lines_trim]
    cases shape : Indented.ofLines (text.splitOn '\n') with
    | nil =>
        rintro first ⟨⟩
    | cons first others =>
        rintro _ ⟨rfl⟩ line _
        exact Nat.zero_le line.indent

/--
A text of nothing but items reads the same further to the right just when none of
its items but the first stands at the margin: the first item is always taken to
stand there, so that items beside it become items below it.
-/
theorem read_indentLines_iff
    {text : Text}
    (onlyItems : ∀ line ∈ text.solidLines, (LineKind.of line).isItem)
    (count : Nat) :
    read (text.indentLines count) = read text ↔
      count = 0 ∨ ∀ line ∈ text.solidLines.tail, 0 < line.indent := by
  have seenItems : ∀ line ∈ Indented.ofLines (text.splitOn '\n'), line.kind.isItem :=
    List.forall_mem_map.mpr onlyItems
  have sameTail :
      (∀ line ∈ text.solidLines.tail, 0 < line.indent) ↔
        ∀ line ∈ (Indented.ofLines (text.splitOn '\n')).tail, 0 < line.indent := by
    rw [Indented.ofLines, ← List.map_tail, List.forall_mem_map]
    rfl
  rw [read_of_items seenItems, read_of_items (Indented.isItem_of_mem_indentLines seenItems count),
    Indented.ofLines_indentLines, sameTail]
  cases shape : Indented.ofLines (text.splitOn '\n') with
  | nil =>
      simp
  | cons first others =>
      rw [shape] at seenItems
      obtain ⟨firstIsItem, othersAreItems⟩ := List.forall_mem_cons.mp seenItems
      obtain ⟨ordered, body, isItem⟩ := LineKind.exists_of_isItem firstIsItem
      have mayNest : 0 < ItemList.maxNesting - 1 := by
        decide
      have sameNesting := ItemList.nest_shift_eq_iff mayNest count (Item.ofBody body)
        (others.filterMap Indented.entryAt?)
      rw [Indented.forall_indent_filterMap_entryAt? othersAreItems (0 < ·)] at sameNesting
      have isEntry (indent : Nat) :
          (Indented.unindented ⟨indent, first.kind⟩).entryAt? =
            some ⟨0, ordered, Item.ofBody body⟩ := by
        rw [isItem]
        rfl
      rw [List.map_cons, List.modifyHead_cons, List.modifyHead_cons, Indented.shift, Indented.list?,
        Indented.list?, isEntry, isEntry, Indented.filterMap_entryAt?_shift, List.tail_cons,
        ← sameNesting]
      simp [ItemList.ofEntries, ItemList.maxNesting]

/-- An item that stands below the first one moves with it. -/
theorem read_indentLines_iff_below :
    let text : Text := ['-', ' ', 'a', '\n', ' ', '-', ' ', 'b']
    (∀ line ∈ text.solidLines, (LineKind.of line).isItem) ∧
      read (text.indentLines 2) = read text := by
  intro text
  have onlyItems : ∀ line ∈ text.solidLines, (LineKind.of line).isItem := by
    decide
  have below : ∀ line ∈ text.solidLines.tail, 0 < line.indent := by
    decide
  exact ⟨onlyItems, (read_indentLines_iff onlyItems 2).mpr (.inr below)⟩

/-- A second item at the margin goes below the first one when both move. -/
theorem not_read_indentLines :
    ¬ ∀ (text : Text) (count : Nat),
      (∀ line ∈ (text.splitOn '\n').head?, Text.indent line = 0) →
      (∀ line ∈ text.solidLines, (LineKind.of line).isItem) →
      read (text.indentLines count) = read text := by
  intro same
  let text : Text := ['-', ' ', 'a', '\n', '-', ' ', 'b']
  have atMargin : ∀ line ∈ (text.splitOn '\n').head?, Text.indent line = 0 := by
    decide
  have onlyItems : ∀ line ∈ text.solidLines, (LineKind.of line).isItem := by
    decide
  have seenItems : ∀ line ∈ Indented.ofLines (text.splitOn '\n'), line.kind.isItem :=
    List.forall_mem_map.mpr onlyItems
  have beside :
      read text =
        [.list (.mk false [.mk [.text "a"] none none, .mk [.text "b"] none none])] := by
    rw [read_of_items seenItems]
    cbv
  have below :
      read (text.indentLines 1) =
        [.list (.mk false
          [.mk [.text "a"] none (some (.mk false [.mk [.text "b"] none none]))])] := by
    rw [read_of_items (Indented.isItem_of_mem_indentLines seenItems 1)]
    cbv
  have sameRead := same text 1 atMargin onlyItems
  rw [beside, below] at sameRead
  simp at sameRead

end Block

end Guidebook
