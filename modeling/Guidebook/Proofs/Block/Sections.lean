import Guidebook.Proofs.Block.Continuation
import Guidebook.Proofs.Block.LineKind

namespace Guidebook

/-!
# The sections of a guide

Reading goes over the lines of a guide in turns.  A turn that stands on a blank
line skips that line; any other takes a section of lines and makes one block of
it.  Every turn goes forward and none goes past the last line, so the sections
follow each other without a gap and every line that is not blank is part of one
block.
-/

/-- Taking leading values leaves the lines from the first one on that has none. -/
theorem takeLeading_snd
    (value? : Line → Option α)
    (lines : List Line) :
    (takeLeading value? lines).2 = lines.dropWhile fun line => (value? line).isSome := by
  induction lines with
  | nil =>
      rfl
  | cons line rest inductionHypothesis =>
      rw [takeLeading]
      split
      · next refused =>
          simp [refused]
      · next value found =>
          simpa [found] using inductionHypothesis

/-- A first line that passes the test as well does not change where the lines end. -/
theorem takeLeading_snd_behind
    {value? : Line → Option α}
    {line : Line}
    (passes : (value? line).isSome)
    (rest : List Line) :
    (takeLeading value? rest).2 =
      (line :: rest).dropWhile fun other => (value? other).isSome := by
  rw [List.dropWhile_cons, if_pos passes, takeLeading_snd]

/-- Lines of blanks, and no others, are told to be blank. -/
theorem LineKind.of_eq_blank_iff
    {line : Line} :
    of line = .blank ↔ line.isBlankLine := by
  constructor
  · intro isBlank
    have fits := fits_of line
    rw [isBlank] at fits
    exact Text.trim_eq_nil_iff.mp fits
  · exact of_eq_blank

/-! ## The lines of quotes and lists -/

/-- The lines of a quote are those that start with its mark once the blanks are taken off. -/
theorem isSome_quoted?_iff
    {line : Line} :
    (quoted? line).isSome ↔ line.trim.head? = some '>' := by
  rw [← LineKind.exists_ofTrimmed_eq_quote_iff]
  unfold quoted? LineKind.of
  split
  · next content isQuote =>
      simp [isQuote]
  · next notQuote =>
      simpa using notQuote

/--
The lines that carry on a list are those that are blank, and those that are no rule, are
marked as items, and are indented no less than the list is.
-/
theorem isSome_entryOf?_iff
    {base : Nat}
    {line : Line} :
    (entryOf? base line).isSome ↔
      line.isBlankLine ∨
        (¬ LineKind.isRule line.trim ∧ (LineKind.item? line.trim).isSome) ∧
          base ≤ line.indent := by
  rw [← LineKind.of_eq_blank_iff, ← LineKind.exists_ofTrimmed_eq_item_iff, ← LineKind.of]
  unfold entryOf?
  split
  · next isBlank =>
      simp [isBlank]
  · next ordered body isItem =>
      simp [isItem]
  · next notBlank notItem =>
      refine iff_of_false Bool.false_ne_true ?_
      rintro (isBlank | ⟨⟨ordered, body, isItem⟩, -⟩)
      · exact notBlank isBlank
      · exact notItem ordered body isItem

namespace Block

/-- Whether a row opens a table when these lines come behind it. -/
def opensTable (rest : List Line) : Bool :=
  rest.head?.any fun separator => (Alignment.ofSeparator? separator.trim).isSome

/--
The lines behind the block that a line begins.  Quotes and lists put the same test
to each of their lines, the first one included, and end before the first line that
fails it; other blocks take their first line as it is.
-/
def behind (line : Line) (rest : List Line) : List Line :=
  match LineKind.of line with
  | .blank | .heading _ _ | .rule | .command _ => rest
  | .fence marker length _ =>
      (rest.dropWhile fun code => code.trim.runLength marker < length).drop 1
  | .row _ =>
      if opensTable rest then (rest.drop 1).dropWhile fun row => (cells? row).isSome
      else rest.dropWhile fun text => (prose? text).isSome
  | .quote _ => (line :: rest).dropWhile fun quoted => (quoted? quoted).isSome
  | .item _ _ => (line :: rest).dropWhile fun entry => (entryOf? line.indent entry).isSome
  | .prose => rest.dropWhile fun text => (prose? text).isSome

/-- A line that opens a table has a row of dashes behind it, and the rows come behind that. -/
theorem takeTable?_rest
    (headers : List Text)
    (rest : List Line) :
    (takeTable? headers rest).map Prod.snd =
      if opensTable rest then some ((rest.drop 1).dropWhile fun row => (cells? row).isSome)
      else none := by
  cases rest with
  | nil =>
      rfl
  | cons separator rest =>
      rw [takeTable?, Option.map_map, opensTable, List.head?_cons, Option.any_some]
      cases Alignment.ofSeparator? separator.trim with
      | none =>
          rfl
      | some alignments =>
          exact congrArg some (takeLeading_snd cells? rest)

/-- Where a table is taken, the headers are those of its first line. -/
theorem exists_table_of_takeTable?
    {headers : List Text}
    {rest others : List Line}
    {block : Block}
    (found : takeTable? headers rest = some (block, others)) :
    ∃ alignments rows, block = .table alignments (headers.map Span.read) rows := by
  cases rest with
  | nil =>
      cases found
  | cons separator rest =>
      obtain ⟨alignments, -, isTable⟩ := Option.map_eq_some_iff.mp found
      cases isTable
      exact ⟨alignments, _, rfl⟩

theorem takeParagraph_snd
    (line : Line)
    (rest : List Line) :
    (takeParagraph line rest).2 = rest.dropWhile fun text => (prose? text).isSome :=
  takeLeading_snd prose? rest

/--
A block leaves the lines behind it.  The line that begins a quote or a list passes the
test that is put to all of their lines, so that the test does not end them at once.
-/
theorem take_snd
    (line : Line)
    (rest : List Line) :
    (take line rest).2 = behind line rest := by
  rw [take, behind]
  cases kind : LineKind.of line with
  | blank | heading | rule | command | fence =>
      rfl
  | row headers =>
      have opens := takeTable?_rest headers rest
      split at opens
      · next isOpened =>
          obtain ⟨⟨block, others⟩, isTable, rfl⟩ := Option.map_eq_some_iff.mp opens
          simp only [isTable, isOpened, ↓reduceIte]
      · next notOpened =>
          rw [Option.map_eq_none_iff] at opens
          simp only [opens, notOpened]
          exact takeParagraph_snd line rest
  | quote content =>
      have passes : (quoted? line).isSome :=
        isSome_quoted?_iff.mpr (LineKind.exists_ofTrimmed_eq_quote_iff.mp ⟨content, kind⟩)
      exact takeLeading_snd_behind passes rest
  | item ordered body =>
      have isItem := LineKind.exists_ofTrimmed_eq_item_iff.mp ⟨ordered, body, kind⟩
      have passes : (entryOf? line.indent line).isSome :=
        isSome_entryOf?_iff.mpr (.inr ⟨isItem, Nat.le_refl line.indent⟩)
      exact takeLeading_snd_behind passes rest
  | prose =>
      exact takeParagraph_snd line rest

/-- What is behind a block is what is left of the lines. -/
theorem behind_suffix_cons
    (line : Line)
    (rest : List Line) :
    behind line rest <:+ line :: rest := by
  fun_cases behind line rest with
  | case1 | case2 | case3 | case4 =>
      exact List.suffix_cons line rest
  | case5 =>
      exact (List.drop_suffix _ _).trans (List.dropWhile_suffix _) |>.trans
        (List.suffix_cons line rest)
  | case6 =>
      exact (List.dropWhile_suffix _).trans (List.drop_suffix _ _) |>.trans
        (List.suffix_cons line rest)
  | case7 | case10 =>
      exact (List.dropWhile_suffix _).trans (List.suffix_cons line rest)
  | case8 | case9 =>
      exact List.dropWhile_suffix _

/-- A block has its first line at least. -/
theorem behind_suffix
    (line : Line)
    (rest : List Line) :
    behind line rest <:+ rest := by
  apply List.suffix_of_suffix_length_le (behind_suffix_cons line rest)
  · exact List.suffix_cons line rest
  · rw [← take_snd]
    exact take_length_le line rest

/-- A stretch of lines, from one place up to another one, and the block they make, if any. -/
structure Section where
  start : Nat
  stop : Nat
  block? : Option Block

/-- The section that a turn of reading takes when it stands at a place in some lines. -/
def sectionAt? (lines : List Line) (place : Nat) : Option Section :=
  lines[place]?.map fun line =>
    let rest := lines.drop (place + 1)
    ⟨place, lines.length - (behind line rest).length, (take line rest).1⟩

/-- Only behind the last line no turn is taken. -/
theorem sectionAt?_eq_none_iff
    {lines : List Line}
    {place : Nat} :
    sectionAt? lines place = none ↔ lines.length ≤ place := by
  rw [sectionAt?, Option.map_eq_none_iff, List.getElem?_eq_none_iff]

/-- What a turn does at a place where some line stands. -/
structure Turn (lines : List Line) (place : Nat) (line : Line) (part : Section) : Prop where
  stands : lines[place]? = some line
  starts : part.start = place
  makes : part.block? = (take line (lines.drop (place + 1))).1
  leaves : lines.drop part.stop = (take line (lines.drop (place + 1))).2
  forward : place < part.stop
  inside : part.stop ≤ lines.length

/-- The section at a place is made by a turn that goes forward inside the lines. -/
theorem exists_turn
    {lines : List Line}
    {place : Nat}
    {part : Section}
    (found : sectionAt? lines place = some part) :
    ∃ line, Turn lines place line part := by
  obtain ⟨line, stands, rfl⟩ := Option.map_eq_some_iff.mp found
  have isSuffix := behind_suffix line (lines.drop (place + 1))
  have shorter := isSuffix.length_le
  have isInside : place < lines.length :=
    List.getElem?_eq_some_iff.mp stands |>.1
  rw [List.length_drop] at shorter
  refine ⟨line, stands, rfl, rfl, ?_, ?_, Nat.sub_le _ _⟩
  -- What a block leaves is a suffix of the lines, so its length tells where it starts.
  · rw [take_snd]
    exact (List.suffix_iff_eq_drop.mp (isSuffix.trans (List.drop_suffix _ _))).symm
  · apply Nat.lt_sub_of_add_lt
    omega

/-- The sections that reading takes one after the other from a place on. -/
def sectionsFrom (lines : List Line) (place : Nat) : List Section :=
  match _found : sectionAt? lines place with
  | none => []
  | some part => part :: sectionsFrom lines part.stop
termination_by lines.length - place
decreasing_by
  obtain ⟨line, turn⟩ := exists_turn _found
  have forward := turn.forward
  have inside := turn.inside
  omega

/-- All sections of some lines. -/
def sections (lines : List Line) : List Section :=
  sectionsFrom lines 0

/-- The blocks from a place on are those of the sections from there on. -/
theorem ofLines_drop_eq
    (lines : List Line)
    (place : Nat) :
    ofLines (lines.drop place) = (sectionsFrom lines place).filterMap Section.block? := by
  fun_induction sectionsFrom lines place with
  | case1 place notFound =>
      rw [List.drop_eq_nil_of_le (sectionAt?_eq_none_iff.mp notFound), ofLines]
      rfl
  | case2 place part found inductionHypothesis =>
      obtain ⟨line, turn⟩ := exists_turn found
      obtain ⟨isInside, isLine⟩ := List.getElem?_eq_some_iff.mp turn.stands
      rw [List.drop_eq_getElem_cons isInside, isLine, ofLines_cons, ← turn.makes, ← turn.leaves,
        inductionHypothesis]
      cases makes : part.block? with
      | none =>
          rw [List.filterMap_cons_none makes]
          rfl
      | some block =>
          rw [List.filterMap_cons_some makes]
          rfl

/-- The blocks of a guide are those of its sections. -/
theorem read_eq_filterMap
    (text : Text) :
    read text = (sections text.trim.lines).filterMap Section.block? :=
  ofLines_drop_eq text.trim.lines 0

/-- Each section is what a turn takes that stands where it starts. -/
theorem sectionAt?_start
    {lines : List Line}
    {place : Nat}
    {part : Section}
    (member : part ∈ sectionsFrom lines place) :
    sectionAt? lines part.start = some part := by
  fun_induction sectionsFrom lines place with
  | case1 =>
      cases member
  | case2 place first found inductionHypothesis =>
      rcases List.mem_cons.mp member with isFirst | isLater
      · obtain ⟨line, turn⟩ := exists_turn found
        rw [isFirst, turn.starts, found]
      · exact inductionHypothesis isLater

/-- Every block that is read is begun by some line of the text, with the lines behind it. -/
theorem exists_take_of_mem_read
    {text : Text}
    {block : Block}
    (member : block ∈ read text) :
    ∃ line rest,
      (take line rest).1 = some block ∧ ∀ other ∈ line :: rest, other ∈ text.trim.lines := by
  rw [read_eq_filterMap] at member
  obtain ⟨part, isPart, makes⟩ := List.mem_filterMap.mp member
  obtain ⟨line, turn⟩ := exists_turn (sectionAt?_start isPart)
  obtain ⟨inside, isLine⟩ := List.getElem?_eq_some_iff.mp turn.stands
  refine ⟨line, text.trim.lines.drop (part.start + 1), turn.makes ▸ makes, ?_⟩
  rw [← isLine, ← List.drop_eq_getElem_cons inside]
  exact fun other isOther => List.mem_of_mem_drop isOther

/-- Sections lead from a place up to `stop` without a gap, each of them forward. -/
inductive Tiles (stop : Nat) : Nat → List Section → Prop where
  | nil : Tiles stop stop []
  | cons {place : Nat} {part : Section} {others : List Section} :
      part.start = place → place < part.stop → Tiles stop part.stop others →
      Tiles stop place (part :: others)

/-- The sections from a place on follow each other without a gap up to the end. -/
theorem tiles_sectionsFrom
    {lines : List Line}
    {place : Nat}
    (inside : place ≤ lines.length) :
    Tiles lines.length place (sectionsFrom lines place) := by
  fun_induction sectionsFrom lines place with
  | case1 place notFound =>
      rw [Nat.le_antisymm inside (sectionAt?_eq_none_iff.mp notFound)]
      exact .nil
  | case2 place part found inductionHypothesis =>
      obtain ⟨line, turn⟩ := exists_turn found
      exact .cons turn.starts turn.forward (inductionHypothesis turn.inside)

namespace Tiles

/-- No section starts before the place that the sections lead from. -/
theorem start_le
    {place stop : Nat}
    {parts : List Section}
    (tiles : Tiles stop place parts)
    {part : Section}
    (member : part ∈ parts) :
    place ≤ part.start := by
  induction tiles with
  | nil =>
      cases member
  | cons starts forward _ inductionHypothesis =>
      rcases List.mem_cons.mp member with isFirst | isLater
      · rw [isFirst, starts]
      · exact forward.le.trans (inductionHypothesis isLater)

/-- Every place that sections lead over lies in one of them. -/
theorem existsUnique
    {first stop : Nat}
    {parts : List Section}
    (tiles : Tiles stop first parts)
    {place : Nat}
    (behindFirst : first ≤ place)
    (beforeStop : place < stop) :
    ∃! part, part ∈ parts ∧ part.start ≤ place ∧ place < part.stop := by
  induction tiles with
  | nil =>
      exact absurd beforeStop behindFirst.not_gt
  | @cons first part others starts forward tiles inductionHypothesis =>
      by_cases inFirst : place < part.stop
      · refine ⟨part, ⟨List.mem_cons_self, starts.trans_le behindFirst, inFirst⟩, ?_⟩
        rintro other ⟨member, startsBefore, _⟩
        rcases List.mem_cons.mp member with isFirst | isLater
        · exact isFirst
        · exact absurd inFirst ((tiles.start_le isLater).trans startsBefore).not_gt
      · obtain ⟨found, ⟨member, holds⟩, unique⟩ :=
          inductionHypothesis (Nat.le_of_not_lt inFirst)
        refine ⟨found, ⟨List.mem_cons_of_mem _ member, holds⟩, ?_⟩
        rintro other ⟨otherMember, otherHolds⟩
        rcases List.mem_cons.mp otherMember with isFirst | isLater
        · exact absurd (isFirst ▸ otherHolds.2) inFirst
        · exact unique other ⟨isLater, otherHolds⟩

end Tiles

/-- Only a blank line begins no block. -/
theorem of_eq_blank_of_take
    {line : Line}
    {rest : List Line}
    (nothing : (take line rest).1 = none) :
    LineKind.of line = .blank := by
  rw [take] at nothing
  split at nothing
  case h_1 isBlank =>
      exact isBlank
  case h_6 =>
      split at nothing
      · cases nothing
      · cases nothing
  all_goals
    cases nothing

/-- A turn makes no block only where it skips a blank line. -/
theorem Turn.of_block?_eq_none
    {lines : List Line}
    {place : Nat}
    {line : Line}
    {part : Section}
    (turn : Turn lines place line part)
    (skips : part.block? = none) :
    line.isBlankLine ∧ part.stop = place + 1 := by
  have isBlank : LineKind.of line = .blank :=
    of_eq_blank_of_take (turn.makes ▸ skips)
  have sameLength := congrArg List.length turn.leaves
  rw [take, isBlank, List.length_drop, List.length_drop] at sameLength
  have inside := turn.inside
  have forward := turn.forward
  refine ⟨LineKind.of_eq_blank_iff.mp isBlank, ?_⟩
  omega

/-- How sections divide lines between them. -/
structure Divides (parts : List Section) (lines : List Line) : Prop where
  /-- They follow each other without a gap from the first line up to the end. -/
  tiles : Tiles lines.length 0 parts
  /-- Each is what a turn takes where it starts. -/
  turns : ∀ part ∈ parts, sectionAt? lines part.start = some part
  /-- Wherever a turn stands, it goes forward, and not past the end. -/
  advances :
    ∀ place < lines.length, ∃ part, sectionAt? lines place = some part ∧
      place < part.stop ∧ part.stop ≤ lines.length
  /-- One without a block is a single blank line. -/
  skips :
    ∀ part ∈ parts, part.block? = none →
      part.stop = part.start + 1 ∧ lines[part.start]?.any Text.isBlankLine
  /-- A line that is not blank lies in exactly one section that makes a block. -/
  covers :
    ∀ place line, lines[place]? = some line → ¬ line.isBlankLine →
      ∃! part, part ∈ parts ∧ part.block?.isSome ∧ part.start ≤ place ∧ place < part.stop

/-- Wherever a turn stands, it goes forward, and not past the end. -/
theorem exists_advance
    {lines : List Line}
    {place : Nat}
    (inside : place < lines.length) :
    ∃ part, sectionAt? lines place = some part ∧
      place < part.stop ∧ part.stop ≤ lines.length := by
  cases found : sectionAt? lines place with
  | none =>
      exact absurd inside (sectionAt?_eq_none_iff.mp found).not_gt
  | some part =>
      obtain ⟨line, turn⟩ := exists_turn found
      exact ⟨part, rfl, turn.forward, turn.inside⟩

/-- A section without a block is a single blank line. -/
theorem skips_of_mem_sections
    {lines : List Line}
    {part : Section}
    (member : part ∈ sections lines)
    (skips : part.block? = none) :
    part.stop = part.start + 1 ∧ lines[part.start]?.any Text.isBlankLine := by
  obtain ⟨line, turn⟩ := exists_turn (sectionAt?_start member)
  obtain ⟨isBlank, isNext⟩ := turn.of_block?_eq_none skips
  refine ⟨isNext, ?_⟩
  rw [turn.stands]
  exact isBlank

/-- A line that is not blank lies in exactly one section, and that makes a block. -/
theorem existsUnique_section
    {lines : List Line}
    {place : Nat}
    {line : Line}
    (stands : lines[place]? = some line)
    (solid : ¬ line.isBlankLine) :
    ∃! part, part ∈ sections lines ∧ part.block?.isSome ∧
      part.start ≤ place ∧ place < part.stop := by
  have inside : place < lines.length :=
    List.getElem?_eq_some_iff.mp stands |>.1
  obtain ⟨part, ⟨member, starts, stops⟩, unique⟩ :=
    (tiles_sectionsFrom (Nat.zero_le lines.length)).existsUnique (Nat.zero_le place) inside
  have makesBlock : part.block?.isSome := by
    rw [Option.isSome_iff_ne_none]
    intro skips
    obtain ⟨isNext, isBlank⟩ := skips_of_mem_sections member skips
    have isStart : part.start = place := by
      omega
    rw [isStart, stands] at isBlank
    exact solid isBlank
  refine ⟨part, ⟨member, makesBlock, starts, stops⟩, ?_⟩
  rintro other ⟨otherMember, _, otherHolds⟩
  exact unique other ⟨otherMember, otherHolds⟩

/--
Reading makes the blocks of the sections that divide the lines of a guide, in order.
No turn of it stands still or leaves the lines, and no line that is not blank is left
out or shared by two blocks.
-/
theorem divides_sections
    (text : Text) :
    Divides (sections text.trim.lines) text.trim.lines ∧
      read text = (sections text.trim.lines).filterMap Section.block? := by
  refine ⟨?_, read_eq_filterMap text⟩
  exact {
    tiles := tiles_sectionsFrom (Nat.zero_le _)
    turns := fun _ => sectionAt?_start
    advances := fun _ => exists_advance
    skips := fun _ => skips_of_mem_sections
    covers := fun _ _ => existsUnique_section
  }

/-- A quote, a blank line that is skipped, and a heading behind it. -/
example :
    (sections [['>', 'a'], ['>'], [], ['#', ' ', 'b']]).map
        (fun part => (part.start, part.stop, part.block?.isSome)) =
      [(0, 2, true), (2, 3, false), (3, 4, true)] := by
  cbv

end Block

end Guidebook
