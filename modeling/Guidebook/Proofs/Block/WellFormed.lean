import Guidebook.Proofs.Block.Outline
import Guidebook.Proofs.Block.Sections
import Guidebook.Proofs.Span.NormalForm
import Guidebook.Proofs.Text.Case

namespace Guidebook

/-!
# Well-formed blocks

What reading makes of a text keeps to the form that its users rely on: headings
are no deeper than headings go, code names its language, no list is empty or
nested too deep, tables have headers and cells, and spans are in normal form.
-/

mutual

/-- What an item shows is in normal form, and the list inside it is well formed. -/
def Item.WellFormed : Item → Prop
  | .mk content _ none => Span.NormalAll content
  | .mk content _ (some nested) => Span.NormalAll content ∧ nested.WellFormed

/-- A list has an item, and all of its items are well formed. -/
def ItemList.WellFormed : ItemList → Prop
  | .mk _ items => items ≠ [] ∧ Item.AllWellFormed items

/-- All of some items are well formed. -/
def Item.AllWellFormed : List Item → Prop
  | [] => True
  | item :: rest => item.WellFormed ∧ Item.AllWellFormed rest

end

mutual

/-- The number of levels that lists have inside an item. -/
def Item.depth : Item → Nat
  | .mk _ _ none => 0
  | .mk _ _ (some nested) => nested.depth

/-- The number of levels that a list has, its own level included. -/
def ItemList.depth : ItemList → Nat
  | .mk _ items => Item.depthAll items + 1

/-- The most levels that lists have inside one of some items. -/
def Item.depthAll : List Item → Nat
  | [] => 0
  | item :: rest => max item.depth (Item.depthAll rest)

end

/-- A word: some characters, and no blank among them. -/
def Text.IsWord (text : Text) : Prop :=
  text ≠ [] ∧ ∀ character ∈ text, ¬ isBlank character

/-- The form that every block of a guide has. -/
def Block.WellFormed : Block → Prop
  | .heading level content =>
      1 ≤ level ∧ level ≤ LineKind.maxHeadingLevel ∧ Span.NormalAll content
  | .paragraph content => Span.NormalAll content
  | .codeBlock language lines =>
      Text.IsWord language.toList ∧
        (∀ line ∈ lines, '\n' ∉ line.toList) ∧
        ∀ line ∈ lines.getLast?, ¬ Text.isBlankLine line.toList
  | .list items => items.WellFormed ∧ items.depth ≤ ItemList.maxNesting
  | .table alignments headers rows =>
      alignments ≠ [] ∧ headers ≠ [] ∧ (∀ cell ∈ headers, Span.NormalAll cell) ∧
        ∀ row ∈ rows, row ≠ [] ∧ ∀ cell ∈ row, Span.NormalAll cell
  | .blockquote _ paragraphs => ∀ content ∈ paragraphs, Span.NormalAll content
  | .rule => True

/-! ## Lists -/

namespace Item

/-- An item may stand in a list below which there are so many levels at most. -/
structure Fits (levels : Nat) (item : Item) : Prop where
  formed : item.WellFormed
  shallow : item.depth ≤ levels

/-- An item that fits below some level fits when more levels are allowed. -/
theorem Fits.mono
    {lower upper : Nat}
    {item : Item}
    (fits : item.Fits lower)
    (further : lower ≤ upper) :
    item.Fits upper :=
  ⟨fits.formed, fits.shallow.trans further⟩

theorem allWellFormed_iff
    {items : List Item} :
    AllWellFormed items ↔ ∀ item ∈ items, item.WellFormed := by
  induction items with
  | nil =>
      simp [AllWellFormed]
  | cons item rest inductionHypothesis =>
      rw [AllWellFormed, List.forall_mem_cons, inductionHypothesis]

theorem depthAll_le_iff
    {levels : Nat}
    {items : List Item} :
    depthAll items ≤ levels ↔ ∀ item ∈ items, item.depth ≤ levels := by
  induction items with
  | nil =>
      simp [depthAll]
  | cons item rest inductionHypothesis =>
      rw [depthAll, List.forall_mem_cons, Nat.max_le, inductionHypothesis]

/-- Items that fit make a list that has one more level. -/
theorem Fits.list
    {levels : Nat}
    {items : List Item}
    (nonempty : items ≠ [])
    (fits : ∀ item ∈ items, item.Fits levels)
    (ordered : Bool) :
    (ItemList.mk ordered items).WellFormed ∧ (ItemList.mk ordered items).depth ≤ levels + 1 := by
  rw [ItemList.WellFormed, ItemList.depth, Nat.add_le_add_iff_right, allWellFormed_iff,
    depthAll_le_iff]
  exact ⟨⟨nonempty, fun item member => (fits item member).formed⟩,
    fun item member => (fits item member).shallow⟩

/-- An item still fits when a list of items that fit one level below is put inside it. -/
theorem Fits.attach
    {levels : Nat}
    {item : Item}
    (fits : item.Fits (levels + 1))
    {more : List Item}
    (nonempty : more ≠ [])
    (moreFits : ∀ inside ∈ more, inside.Fits levels)
    (ordered : Bool) :
    (item.attach (.mk ordered more)).Fits (levels + 1) := by
  obtain ⟨formed, shallow⟩ := fits
  cases item with
  | mk content checked nested =>
      cases nested with
      | none =>
          obtain ⟨listFormed, listShallow⟩ := Fits.list nonempty moreFits ordered
          exact ⟨⟨formed, listFormed⟩, listShallow⟩
      | some list =>
          cases list with
          | mk own items =>
              obtain ⟨normal, someItems, itemsFormed⟩ := formed
              have itemsShallow : depthAll items ≤ levels :=
                Nat.le_of_succ_le_succ shallow
              have bothFit : ∀ inside ∈ items ++ more, inside.Fits levels := by
                intro inside member
                rcases List.mem_append.mp member with isOld | isNew
                · exact ⟨allWellFormed_iff.mp itemsFormed inside isOld,
                    depthAll_le_iff.mp itemsShallow inside isOld⟩
                · exact moreFits inside isNew
              obtain ⟨listFormed, listShallow⟩ :=
                Fits.list (List.append_ne_nil_of_left_ne_nil someItems more) bothFit own
              exact ⟨⟨normal, listFormed⟩, listShallow⟩

/-- The item on a line has no list below it yet. -/
theorem fits_ofBody
    (body : Text) :
    (ofBody body).Fits 0 := by
  unfold ofBody
  split
  · next checked content _ =>
      exact ⟨Span.normalAll_read content, Nat.le_refl 0⟩
  · exact ⟨Span.normalAll_read body, Nat.le_refl 0⟩

end Item

namespace ItemList

/-- Nesting leaves at least the item that it starts with. -/
theorem nest_ne_nil
    (levels indent : Nat)
    (current : Item)
    (entries : List Entry) :
    nest levels indent current entries ≠ [] := by
  fun_induction nest levels indent current entries with
  | case1 | case3 =>
      exact List.cons_ne_nil _ _
  | case2 =>
      assumption

/-- No more levels are opened than there may be. -/
theorem fits_nest
    {levels indent : Nat}
    {current : Item}
    {entries : List Entry}
    (currentFits : current.Fits levels)
    (entriesFit : ∀ entry ∈ entries, entry.item.Fits 0) :
    ∀ item ∈ nest levels indent current entries, item.Fits levels := by
  fun_induction nest levels indent current entries with
  | case1 levels indent current =>
      rw [List.forall_mem_singleton]
      exact currentFits
  | case2 levels indent current entry rest deeper inside outside nested nestedFits _ outsideFits =>
      cases levels with
      | zero =>
          exact absurd deeper.2 (Nat.lt_irrefl 0)
      | succ levels =>
          obtain ⟨entryFits, restFit⟩ := List.forall_mem_cons.mp entriesFit
          -- The list inside may open one level less, which its place one level down makes up for.
          have insideFits := nestedFits (entryFits.mono (Nat.zero_le levels)) fun other member =>
            restFit other ((List.takeWhile_sublist _).subset member)
          apply outsideFits
          · exact currentFits.attach (nest_ne_nil _ _ _ _) insideFits entry.ordered
          · intro other member
            exact restFit other ((List.dropWhile_sublist _).subset member)
  | case3 levels indent current entry rest _ restFits =>
      obtain ⟨entryFits, restFit⟩ := List.forall_mem_cons.mp entriesFit
      exact List.forall_mem_cons.mpr
        ⟨currentFits, restFits (entryFits.mono (Nat.zero_le _)) restFit⟩

/-- The list of some entries is well formed and nests no deeper than lists may. -/
theorem wellFormed_ofEntries
    {first : Entry}
    {others : List Entry}
    (fits : ∀ entry ∈ first :: others, entry.item.Fits 0) :
    (ofEntries first others).WellFormed ∧ (ofEntries first others).depth ≤ maxNesting := by
  obtain ⟨firstFits, othersFit⟩ := List.forall_mem_cons.mp fits
  apply Item.Fits.list
  · exact nest_ne_nil _ _ _ _
  · exact fits_nest (firstFits.mono (Nat.zero_le _)) othersFit

/-- The entries of a list come from its lines, and have no list below them yet. -/
theorem fits_of_mem_takeLeading
    {base : Nat}
    {lines : List Line}
    {entry : Entry}
    (member : entry ∈ (takeLeading (entryOf? base) lines).1.reduceOption) :
    entry.item.Fits 0 := by
  obtain ⟨line, -, found⟩ := mem_takeLeading (List.reduceOption_mem_iff.mp member)
  obtain ⟨-, _, body, -, isItem⟩ := exists_body_of_entryOf? found
  exact isItem ▸ Item.fits_ofBody body

end ItemList

/-! ## Tables -/

/-- A row of dashes has at least one column. -/
theorem Alignment.ne_nil_of_ofSeparator?
    {line : Line}
    {alignments : List Alignment}
    (found : ofSeparator? line = some alignments) :
    alignments ≠ [] := by
  unfold ofSeparator? at found
  split at found
  · next cells isRow =>
      rintro rfl
      cases cells with
      | nil =>
          exact ne_nil_of_rowCells? isRow rfl
      | cons cell rest =>
          simp [List.mapM_cons, Option.bind_eq_some_iff] at found
  · cases found

/-- A row of a table has at least one cell, and its cells are in normal form. -/
theorem ne_nil_of_cells?
    {line : Line}
    {row : List Cell}
    (found : cells? line = some row) :
    row ≠ [] ∧ ∀ cell ∈ row, Span.NormalAll cell := by
  unfold cells? at found
  split at found
  · next cells isRow =>
      cases found
      have fits := LineKind.fits_of line
      rw [isRow] at fits
      refine ⟨mt List.map_eq_nil_iff.mp fits, ?_⟩
      intro cell member
      obtain ⟨text, -, rfl⟩ := List.mem_map.mp member
      exact Span.normalAll_read text
  · cases found

/-! ## Code -/

namespace Text

/-- The first word of a text is not empty and has no blanks in it. -/
theorem isWord_of_firstWord?
    {text word : Text}
    (found : text.firstWord? = some word) :
    word.IsWord := by
  unfold firstWord? at found
  split at found
  · cases found
  · next first rest trimmed =>
      cases found
      have firstSolid := List.head?_dropWhile_not isBlank text
      rw [← trimStart, trimmed] at firstSolid
      refine ⟨List.cons_ne_nil _ _, List.forall_mem_cons.mpr ⟨?_, ?_⟩⟩
      · exact Bool.eq_false_iff.mp firstSolid
      · intro character member
        simpa using List.mem_takeWhile_imp member

/-- A word in small letters is still a word. -/
theorem IsWord.toSmall
    {word : Text}
    (isWord : word.IsWord) :
    word.toSmall.IsWord :=
  ⟨toSmall_ne_nil isWord.1, fun _ => not_isBlank_of_mem_toSmall isWord.2⟩

end Text

namespace Block

theorem isWord_defaultLanguage :
    Text.IsWord defaultLanguage.toList := by
  simp [Text.IsWord, defaultLanguage, isBlank]

/-- The language of code is a word, whatever describes it. -/
theorem isWord_languageOf
    (info : Text) :
    Text.IsWord (languageOf info).toList := by
  unfold languageOf
  split
  · exact isWord_defaultLanguage
  · next word found =>
      rw [String.toList_ofList]
      exact (Text.isWord_of_firstWord? found).toSmall

/-- Code is well formed when no line feed is inside a line of it. -/
theorem wellFormed_ofCode
    {language : String}
    (isWord : Text.IsWord language.toList)
    {lines : List Line}
    (noFeed : ∀ line ∈ lines, '\n' ∉ line) :
    (ofCode language lines).WellFormed := by
  refine ⟨isWord, ?_, ?_⟩
  · intro line member
    obtain ⟨characters, isKept, rfl⟩ := List.mem_map.mp member
    rw [String.toList_ofList]
    apply noFeed
    exact List.mem_reverse.mp
      ((List.dropWhile_sublist _).subset (List.mem_reverse.mp isKept))
  · intro line isLast
    rw [List.getLast?_map, List.getLast?_reverse] at isLast
    obtain ⟨characters, isFirst, rfl⟩ := Option.map_eq_some_iff.mp isLast
    have firstSolid := List.head?_dropWhile_not Text.isBlankLine lines.reverse
    rw [isFirst] at firstSolid
    rw [String.toList_ofList]
    exact Bool.eq_false_iff.mp firstSolid

/-! ## Blocks -/

/-- A paragraph is well formed, as what is read is in normal form. -/
theorem wellFormed_takeParagraph
    (line : Line)
    (rest : List Line) :
    (takeParagraph line rest).1.WellFormed :=
  Span.normalAll_read _

/-- A quote is well formed: its paragraphs are not empty and in normal form. -/
theorem wellFormed_ofQuote
    (first : Text)
    (others : List Text) :
    (ofQuote first others).WellFormed := by
  have normal
      (lines : List Text) :
      ∀ content ∈ quoteParagraphs lines, Span.NormalAll content := by
    intro content member
    obtain ⟨group, -, rfl⟩ := List.mem_map.mp member
    exact Span.normalAll_read _
  unfold ofQuote
  split
  · exact normal _
  · exact normal _

/-- A table with headers is well formed, with any number of cells in its rows. -/
theorem wellFormed_takeTable?
    {headers : List Text}
    (nonempty : headers ≠ [])
    {rest others : List Line}
    {block : Block}
    (found : takeTable? headers rest = some (block, others)) :
    block.WellFormed := by
  cases rest with
  | nil =>
      cases found
  | cons separator rest =>
      obtain ⟨alignments, isSeparator, isTable⟩ := Option.map_eq_some_iff.mp found
      cases isTable
      refine ⟨Alignment.ne_nil_of_ofSeparator? isSeparator, ?_, ?_, ?_⟩
      · exact mt List.map_eq_nil_iff.mp nonempty
      · intro cell member
        obtain ⟨text, -, rfl⟩ := List.mem_map.mp member
        exact Span.normalAll_read text
      · intro row member
        obtain ⟨line, -, isRow⟩ := mem_takeLeading member
        exact ne_nil_of_cells? isRow

/-- The block that a line begins is well formed when no line end stands in a line. -/
theorem wellFormed_take
    {line : Line}
    {rest : List Line}
    (noFeed : ∀ other ∈ line :: rest, '\n' ∉ other)
    {block : Block}
    (begins : (take line rest).1 = some block) :
    block.WellFormed := by
  obtain ⟨noFeedFirst, noFeedRest⟩ := List.forall_mem_cons.mp noFeed
  have fits := LineKind.fits_of line
  rw [take] at begins
  cases kind : LineKind.of line with
  | blank =>
      rw [kind] at begins
      cases begins
  | heading level content =>
      rw [kind] at begins fits
      cases begins
      exact ⟨fits.1, fits.2, Span.normalAll_read content⟩
  | rule =>
      rw [kind] at begins
      cases begins
      trivial
  | command text =>
      rw [kind] at begins fits
      cases begins
      apply wellFormed_ofCode isWord_defaultLanguage
      rw [List.forall_mem_singleton]
      intro member
      exact noFeedFirst ((Text.trim_infix line).subset (fits.subset member))
  | fence marker length info =>
      rw [kind] at begins
      cases begins
      apply wellFormed_ofCode (isWord_languageOf info)
      intro code member
      exact noFeedRest code ((List.takeWhile_sublist _).subset member)
  | row headers =>
      rw [kind] at begins fits
      cases table : takeTable? headers rest with
      | none =>
          simp only [table, Option.some.injEq] at begins
          rw [← begins]
          exact wellFormed_takeParagraph line rest
      | some taken =>
          simp only [table, Option.some.injEq] at begins
          rw [← begins]
          exact wellFormed_takeTable? fits table
  | quote content =>
      rw [kind] at begins
      cases begins
      exact wellFormed_ofQuote _ _
  | item ordered body =>
      rw [kind] at begins
      cases begins
      apply ItemList.wellFormed_ofEntries
      rw [List.forall_mem_cons]
      exact ⟨Item.fits_ofBody body, fun _ => ItemList.fits_of_mem_takeLeading⟩
  | prose =>
      rw [kind] at begins
      cases begins
      exact wellFormed_takeParagraph line rest

/-- Every block that is read from a text is well formed. -/
theorem wellFormed_of_mem_read
    {text : Text}
    {block : Block}
    (member : block ∈ read text) :
    block.WellFormed := by
  rw [read_eq_filterMap] at member
  obtain ⟨part, isPart, makes⟩ := List.mem_filterMap.mp member
  obtain ⟨line, turn⟩ := exists_turn (sectionAt?_start isPart)
  apply wellFormed_take ?_ (turn.makes ▸ makes)
  obtain ⟨inside, isLine⟩ := List.getElem?_eq_some_iff.mp turn.stands
  rw [← isLine, ← List.drop_eq_getElem_cons inside]
  intro other isOther
  exact Text.newline_not_mem_of_mem_lines (List.mem_of_mem_drop isOther)

/-- A table with one row below its headers. -/
theorem wellFormed_of_mem_read_table :
    .table [.none] [[.text "b"]] [[[.text "c"]]] ∈
        read ['|', 'b', '|', '\n', '|', '-', '|', '\n', '|', 'c', '|'] ∧
      (Block.table [.none] [[.text "b"]] [[[.text "c"]]]).WellFormed := by
  have isRead :
      read ['|', 'b', '|', '\n', '|', '-', '|', '\n', '|', 'c', '|'] =
        [.table [.none] [[.text "b"]] [[[.text "c"]]]] := by
    cbv
  have member :
      .table [.none] [[.text "b"]] [[[.text "c"]]] ∈
        read ['|', 'b', '|', '\n', '|', '-', '|', '\n', '|', 'c', '|'] := by
    rw [isRead]
    exact List.mem_singleton_self _
  exact ⟨member, wellFormed_of_mem_read member⟩

end Block

end Guidebook
