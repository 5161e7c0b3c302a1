import Guidebook.Block.Item
import Guidebook.Block.LineKind
import Guidebook.Proofs.Code.Expression
import Guidebook.Proofs.Text.Joining
import Mathlib.Data.List.TakeWhile

namespace Guidebook

/-!
# The marks of list items

Three patterns and two beginnings decide on their own whether a line is an item of a
list, where its mark ends and whether it has a task box.  They do not ask for the same
blanks: a star or a dash has to be followed by a space to make an item, while the mark
ends behind blanks of any kind.  On every line that makes an item they agree all the same.
-/

/-- A star, a dash, or digits with a full stop. -/
def IsMark (mark : Text) : Prop :=
  mark = ['*'] ∨ mark = ['-'] ∨
    ∃ digits : Text, digits ≠ [] ∧ (∀ digit ∈ digits, isDecimalDigit digit) ∧
      mark = digits ++ ['.']

/-- A line as a mark, blanks and a body. -/
structure IsMarked (line mark blanks body : Text) : Prop where
  line_eq : line = mark ++ (blanks ++ body)
  isMark : IsMark mark
  blanks_ne_nil : blanks ≠ []
  areBlanks : ∀ blank ∈ blanks, isBlank blank
  starts : ∃ first ∈ body.head?, ¬ isBlank first

/-- A body as a task box with its sign, blanks, and a text. -/
structure IsTask (body : Text) (sign : Char) (content : Text) : Prop where
  isSign : sign = 'x' ∨ sign = 'X' ∨ sign = ' '
  exists_blanks :
    ∃ blanks : Text, blanks ≠ [] ∧ (∀ blank ∈ blanks, isBlank blank) ∧
      body = '[' :: sign :: ']' :: (blanks ++ content)
  starts : ∃ first ∈ content.head?, ¬ isBlank first

namespace Pattern

/-- Digits and a full stop. -/
def number : Pattern :=
  run isDecimalDigit ++ character '.'

/-- A number with a blank behind it. -/
def numbered : Pattern :=
  number ++ one isBlank

/-- A star, a dash or a number. -/
def mark : Pattern :=
  character '*' <|> (character '-' <|> number)

/-- A mark with the blanks behind it. -/
def marker : Pattern :=
  mark ++ run isBlank

/-- A task box, ticked or not, with the blanks behind it. -/
def box : Pattern :=
  character '[' ++ (one (fun sign => sign == 'x' || sign == 'X' || sign == ' ') ++
    (character ']' ++ run isBlank))

end Pattern

/-- Whether a line opens an item: it starts with a star or a dash and a space, or is numbered. -/
def opensItem (line : Text) : Bool :=
  ['*', ' '].isPrefixOf line || ['-', ' '].isPrefixOf line ||
    (Pattern.numbered.extent? none line).isSome

/-- The sign in the task box behind the marker of a line and the text up to the line end. -/
def boxed? (line : Text) : Option (Char × Text) := do
  let start ← Pattern.marker.extent? none line
  let extent ← (Pattern.marker ++ Pattern.box).extent? none line
  let sign ← (line)[start + 1]?
  let content := line.drop extent
  if '\n' ∈ content then none else some (sign, content)

/-- The item that a line is by these patterns; without a marker it is the whole line. -/
def Item.ofLine (line : Text) : Item :=
  match boxed? line with
  | some (sign, content) => .mk (Span.read content) (some (sign == 'x' || sign == 'X')) none
  | none =>
      match Pattern.marker.extent? none line with
      | some extent => .mk (Span.read (line.drop extent)) none none
      | none => .mk (Span.read line) none none

/-! ## What the patterns take -/

/-- A run takes what is of its class up to the first character that is not. -/
theorem runExtent_append_of_stops
    {accepts : Char → Bool}
    {front rest : Text}
    (accepted : ∀ character ∈ front, accepts character)
    (stops : ∀ character ∈ rest.head?, ¬ accepts character) :
    runExtent accepts (front ++ rest) = front.length := by
  have taken := congrArg List.length (takeWhile_append_of_stops accepted stops).1
  rwa [List.takeWhile_eq_take_findIdx_not, List.length_take_of_le List.findIdx_le_length] at taken

/-- A character fits where it is the first one. -/
theorem Pattern.extent?_character_cons
    (expected first : Char)
    (before : Option Char)
    (rest : Text) :
    (character expected).extent? before (first :: rest) =
      if first = expected then some 1 else none := by
  simp [character, extent?]

/-- A pattern behind a single character fits behind the first one of its class. -/
theorem Pattern.extent?_one_sequence_eq_some_iff
    {accepts : Char → Bool}
    {second : Pattern}
    {before : Option Char}
    {text : Text}
    {extent : Nat} :
    (one accepts ++ second).extent? before text = some extent ↔
      ∃ first rest more, text = first :: rest ∧ accepts first ∧
        second.extent? (some first) rest = some more ∧ extent = 1 + more := by
  rw [extent?_sequence_eq_some_iff]
  constructor
  · rintro ⟨_, more, fits, fitsBehind, rfl⟩
    obtain ⟨first, rest, rfl, accepted, rfl⟩ := extent?_one_eq_some_iff.mp fits
    exact ⟨first, rest, more, rfl, accepted, fitsBehind, rfl⟩
  · rintro ⟨first, rest, more, rfl, accepted, fitsBehind, rfl⟩
    exact ⟨1, more, extent?_one_eq_some_iff.mpr ⟨first, rest, rfl, accepted, rfl⟩, fitsBehind, rfl⟩

/-- A box stands where its three characters and a blank do. -/
theorem Pattern.extent?_box_eq_some_iff
    {before : Option Char}
    {text : Text}
    {extent : Nat} :
    box.extent? before text = some extent ↔
      ∃ sign rest, text = '[' :: sign :: ']' :: rest ∧ (sign = 'x' ∨ sign = 'X' ∨ sign = ' ') ∧
        0 < runExtent isBlank rest ∧ extent = runExtent isBlank rest + 3 := by
  simp only [box, character, extent?_one_sequence_eq_some_iff, extent?_run_eq_some_iff]
  constructor
  · rintro ⟨_, _, _, rfl, isOpen, ⟨sign, _, _, rfl, isSign, ⟨_, rest, _, rfl, isClose,
      ⟨rfl, started⟩, rfl⟩, rfl⟩, rfl⟩
    rw [beq_iff_eq.mp isOpen, beq_iff_eq.mp isClose]
    exact ⟨sign, rest, rfl, by simpa [or_assoc] using isSign, started, by omega⟩
  · rintro ⟨sign, rest, rfl, isSign, started, rfl⟩
    exact ⟨'[', _, _, rfl, rfl, ⟨sign, _, _, rfl, by simpa [or_assoc] using isSign,
      ⟨']', rest, _, rfl, rfl, ⟨rfl, started⟩, rfl⟩, rfl⟩, by omega⟩

/-- A number takes all digits up to a full stop, and that. -/
theorem Pattern.extent?_number_eq_some_iff
    {before : Option Char}
    {text : Text}
    {extent : Nat} :
    number.extent? before text = some extent ↔
      ∃ digits rest : Text, digits ≠ [] ∧ (∀ digit ∈ digits, isDecimalDigit digit) ∧
        text = digits ++ '.' :: rest ∧ extent = digits.length + 1 := by
  rw [number, extent?_sequence_eq_some_iff]
  constructor
  · rintro ⟨count, _, digitsFit, pointFits, rfl⟩
    obtain ⟨same, started⟩ := extent?_run_eq_some_iff.mp digitsFit
    obtain ⟨point, rest, behind, isPoint, rfl⟩ := extent?_one_eq_some_iff.mp pointFits
    subst same
    rw [beq_iff_eq.mp isPoint] at behind
    refine ⟨text.take (runExtent isDecimalDigit text), rest, take_runExtent_ne_nil started,
      fun _ => accepts_of_mem_take_runExtent, ?_, ?_⟩
    · rw [← behind, List.take_append_drop]
    · exact congrArg (· + 1) (List.length_take_of_le List.findIdx_le_length).symm
  · rintro ⟨digits, rest, nonempty, areDigits, rfl, rfl⟩
    have notDigit : ∀ character ∈ ('.' :: rest).head?, ¬ isDecimalDigit character := by
      rintro _ ⟨⟩
      decide
    refine ⟨digits.length, 1, ?_, ?_, rfl⟩
    · exact extent?_run_eq_some_iff.mpr
        ⟨runExtent_append_of_stops areDigits notDigit, List.length_pos_iff.mpr nonempty⟩
    · rw [List.drop_left]
      rfl

theorem ne_of_isDecimalDigit
    {character : Char}
    (isDigit : isDecimalDigit character) :
    character ≠ '*' ∧ character ≠ '-' := by
  constructor
  · rintro rfl
    revert isDigit
    decide
  · rintro rfl
    revert isDigit
    decide

namespace IsMarked

variable {line mark blanks body : Text}

/-- On a marked line the mark is what the pattern for marks takes. -/
theorem extent?_mark
    (marked : IsMarked line mark blanks body) :
    Pattern.mark.extent? none line = some mark.length := by
  obtain ⟨rfl, isMark, -, -, -⟩ := marked
  rcases isMark with rfl | rfl | ⟨digits, nonempty, areDigits, rfl⟩
  · rfl
  · rfl
  · have isNumber : Pattern.number.extent? none (digits ++ '.' :: (blanks ++ body)) =
        some (digits.length + 1) :=
      Pattern.extent?_number_eq_some_iff.mpr ⟨digits, _, nonempty, areDigits, rfl, rfl⟩
    obtain ⟨first, others, rfl⟩ := List.exists_cons_of_ne_nil nonempty
    obtain ⟨notStar, notDash⟩ := ne_of_isDecimalDigit (areDigits first List.mem_cons_self)
    rw [List.append_assoc]
    simp only [Pattern.mark, Pattern.extent?_choice]
    rw [List.cons_append, Pattern.extent?_character_cons, Pattern.extent?_character_cons,
      if_neg notStar, if_neg notDash, Option.none_or, Option.none_or]
    simpa using isNumber

theorem drop_mark
    (marked : IsMarked line mark blanks body) :
    line.drop mark.length = blanks ++ body := by
  rw [marked.line_eq, List.drop_left]

/-- The mark ends behind all the blanks. -/
theorem extent?_marker
    (marked : IsMarked line mark blanks body) :
    Pattern.marker.extent? none line = some (mark.length + blanks.length) := by
  refine Pattern.extent?_sequence_eq_some_iff.mpr
    ⟨mark.length, blanks.length, marked.extent?_mark, ?_, rfl⟩
  rw [marked.drop_mark]
  obtain ⟨first, isFirst, solid⟩ := marked.starts
  refine Pattern.extent?_run_eq_some_iff.mpr
    ⟨runExtent_append_of_stops marked.areBlanks ?_, List.length_pos_iff.mpr marked.blanks_ne_nil⟩
  intro other isOther
  rwa [Option.mem_unique isOther isFirst]

/-- Behind its mark and the blanks a line has its body. -/
theorem drop_marker
    (marked : IsMarked line mark blanks body) :
    line.drop (mark.length + blanks.length) = body := by
  rw [← List.drop_drop, marked.drop_mark, List.drop_left]

/-- There is one way at most to tell a mark, blanks and a body. -/
theorem eq_of_isMarked
    (marked : IsMarked line mark blanks body)
    {otherMark otherBlanks otherBody : Text}
    (markedToo : IsMarked line otherMark otherBlanks otherBody) :
    otherMark = mark ∧ otherBlanks = blanks ∧ otherBody = body := by
  have sameMark : otherMark.length = mark.length :=
    Option.some.inj (markedToo.extent?_mark.symm.trans marked.extent?_mark)
  have sameMarker : otherMark.length + otherBlanks.length = mark.length + blanks.length :=
    Option.some.inj (markedToo.extent?_marker.symm.trans marked.extent?_marker)
  have sameLine := markedToo.line_eq.symm.trans marked.line_eq
  obtain ⟨isMark, sameRest⟩ := List.append_inj sameLine sameMark
  exact ⟨isMark, List.append_inj sameRest (by omega)⟩

/-- The body ends where its line ends. -/
theorem finished
    (marked : IsMarked line mark blanks body)
    (phrase : Text.Phrase line) :
    Text.Finished body := by
  obtain ⟨first, isFirst, -⟩ := marked.starts
  have nonempty : body ≠ [] := by
    rintro rfl
    cases isFirst
  have isLast := List.getLast?_eq_some_getLast nonempty
  obtain ⟨rfl, -, -, -, -⟩ := marked
  refine ⟨?_, body.getLast nonempty, isLast, phrase.back _ ?_⟩
  · intro isBreak
    exact phrase.oneLine (by simp [isBreak])
  · simp [List.getLast?_append, isLast]

end IsMarked

/-! ## Task boxes -/

section

variable
    {body content : Text}
    {sign : Char}

/-- Behind blanks a line that is finished goes on with something else. -/
theorem Text.exists_head?_trimStart
    {text : Text}
    (back : ∃ last ∈ text.getLast?, ¬ isBlank last) :
    ∃ first ∈ text.trimStart.head?, ¬ isBlank first := by
  obtain ⟨last, isLast, solid⟩ := back
  have left : text.trimStart ≠ [] := by
    intro isNil
    exact solid (isBlankLine_iff.mp (trimStart_eq_nil_iff.mp isNil) last
      (List.mem_of_getLast? isLast))
  obtain ⟨first, rest, shape⟩ := List.exists_cons_of_ne_nil left
  refine ⟨first, by rw [shape]; rfl, ?_⟩
  have stops := List.head?_dropWhile_not isBlank text
  rw [← trimStart, shape] at stops
  simpa using stops

/-- A line that ends in no blank ends in none either behind a blank inside it. -/
theorem Text.exists_getLast?_behind
    {front rest : Text}
    {blank : Char}
    (isBlank' : isBlank blank)
    (back : ∃ last ∈ (front ++ blank :: rest).getLast?, ¬ isBlank last) :
    ∃ last ∈ rest.getLast?, ¬ isBlank last := by
  obtain ⟨last, isLast, solid⟩ := back
  cases rest with
  | nil =>
      rw [Option.mem_def, List.getLast?_concat, Option.some.injEq] at isLast
      exact (solid (isLast ▸ isBlank')).elim
  | cons first others =>
      refine ⟨last, ?_, solid⟩
      simpa [List.getLast?_append, List.getLast?_cons_cons] using isLast

/-- A body is a task when a box with a sign and at least one blank stand in front. -/
theorem isTask_iff
    (finished : Text.Finished body) :
    IsTask body sign content ↔
      (sign = 'x' ∨ sign = 'X' ∨ sign = ' ') ∧
        ∃ blank rest, isBlank blank ∧ body = '[' :: sign :: ']' :: blank :: rest ∧
          content = Text.trimStart rest := by
  constructor
  · rintro ⟨isSign, ⟨blanks, nonempty, areBlanks, rfl⟩, first, isFirst, solid⟩
    obtain ⟨blank, others, rfl⟩ := List.exists_cons_of_ne_nil nonempty
    obtain ⟨isBlank', areBlanks⟩ := List.forall_mem_cons.mp areBlanks
    refine ⟨isSign, blank, others ++ content, isBlank', rfl, ?_⟩
    exact (takeWhile_append_of_stops areBlanks fun other isOther => by
      rwa [Option.mem_unique isOther isFirst]).2.symm
  · rintro ⟨isSign, blank, rest, isBlank', rfl, rfl⟩
    refine ⟨isSign, ⟨blank :: rest.takeWhile isBlank, List.cons_ne_nil _ _, ?_, ?_⟩, ?_⟩
    · exact List.forall_mem_cons.mpr ⟨isBlank', fun _ => List.mem_takeWhile_imp⟩
    · rw [List.cons_append, Text.trimStart, List.takeWhile_append_dropWhile]
    · have behindBox : Text.Finished (['[', sign, ']'] ++ blank :: rest) :=
        finished
      exact Text.exists_head?_trimStart (Text.exists_getLast?_behind isBlank' behindBox.back)

/-- The task box of a body is read with its sign and the text behind it. -/
theorem taskBox?_eq_some_iff
    (finished : Text.Finished body)
    {checked : Bool} :
    taskBox? body = some (checked, content) ↔
      ∃ sign, IsTask body sign content ∧ checked = (sign == 'x' || sign == 'X') := by
  constructor
  · intro found
    unfold taskBox? at found
    split at found
    · next sign blank rest =>
        rw [Option.ite_none_right_eq_some] at found
        obtain ⟨isBlank', found⟩ := found
        have isTask (isSign : sign = 'x' ∨ sign = 'X' ∨ sign = ' ') :
            IsTask _ sign (Text.trimStart rest) :=
          (isTask_iff finished).mpr ⟨isSign, blank, rest, isBlank', rfl, rfl⟩
        split at found
        · next isSpace =>
            cases found
            exact ⟨sign, isTask (.inr (.inr isSpace)), by rw [isSpace]; rfl⟩
        · rw [Option.ite_none_right_eq_some, Option.some.injEq, Prod.mk.injEq] at found
          obtain ⟨isTick, rfl, rfl⟩ := found
          exact ⟨sign, isTask (by tauto), by simpa using isTick⟩
    · cases found
  · rintro ⟨sign, task, rfl⟩
    obtain ⟨isSign, blank, rest, isBlank', rfl, rfl⟩ := (isTask_iff finished).mp task
    rcases isSign with rfl | rfl | rfl
    all_goals simp [taskBox?, isBlank']

/-- The pattern of a box takes all that stands before the text of a task. -/
theorem isTask_of_extent?_box
    (finished : Text.Finished body)
    {before : Option Char}
    {extent : Nat}
    (fits : Pattern.box.extent? before body = some extent) :
    ∃ sign, body[1]? = some sign ∧ IsTask body sign (body.drop extent) := by
  obtain ⟨sign, behind, rfl, isSign, started, rfl⟩ := Pattern.extent?_box_eq_some_iff.mp fits
  obtain ⟨blank, rest, rfl, isBlank'⟩ := Pattern.exists_of_runExtent_pos started
  refine ⟨sign, rfl, (isTask_iff finished).mpr ⟨isSign, blank, rest, isBlank', rfl, ?_⟩⟩
  have dropped : (blank :: rest).drop (runExtent isBlank (blank :: rest)) =
      Text.trimStart (blank :: rest) :=
    List.dropWhile_eq_drop_findIdx_not.symm
  rw [List.drop_succ_cons, List.drop_succ_cons, List.drop_succ_cons, dropped]
  exact List.dropWhile_cons_of_pos isBlank'

/-- The pattern for boxes fits a task. -/
theorem IsTask.extent?_box_ne_none
    (task : IsTask body sign content)
    (before : Option Char) :
    Pattern.box.extent? before body ≠ none := by
  obtain ⟨isSign, ⟨blanks, nonempty, areBlanks, rfl⟩, first, isFirst, solid⟩ := task
  have blanksTaken : runExtent isBlank (blanks ++ content) = blanks.length :=
    runExtent_append_of_stops areBlanks fun other isOther => by
      rwa [Option.mem_unique isOther isFirst]
  have started : 0 < runExtent isBlank (blanks ++ content) := by
    rw [blanksTaken]
    exact List.length_pos_iff.mpr nonempty
  have fits : Pattern.box.extent? before ('[' :: sign :: ']' :: (blanks ++ content)) =
      some (runExtent isBlank (blanks ++ content) + 3) :=
    Pattern.extent?_box_eq_some_iff.mpr ⟨sign, blanks ++ content, rfl, isSign, started, rfl⟩
  rw [fits]
  exact Option.some_ne_none _

end

/-! ## Lines that open an item -/

section

variable {line : Text}

/-- A line is numbered when digits, a full stop and a blank stand in front. -/
theorem Pattern.isSome_extent?_numbered_iff :
    (numbered.extent? none line).isSome ↔
      ∃ digits blank rest, digits ≠ [] ∧ (∀ digit ∈ digits, isDecimalDigit digit) ∧
        isBlank blank ∧ line = digits ++ '.' :: blank :: rest := by
  have dropped (digits behind : Text) :
      (digits ++ '.' :: behind).drop (digits.length + 1) = behind := by
    rw [List.drop_length_add_append]
    rfl
  simp only [Option.isSome_iff_exists, numbered, extent?_sequence_eq_some_iff,
    extent?_number_eq_some_iff, extent?_one_eq_some_iff]
  constructor
  · rintro ⟨_, _, _, ⟨digits, behind, nonempty, areDigits, rfl, rfl⟩,
      ⟨blank, rest, shape, isBlank', rfl⟩, rfl⟩
    rw [dropped] at shape
    exact ⟨digits, blank, rest, nonempty, areDigits, isBlank', by rw [shape]⟩
  · rintro ⟨digits, blank, rest, nonempty, areDigits, isBlank', rfl⟩
    exact ⟨_, _, _, ⟨digits, blank :: rest, nonempty, areDigits, rfl, rfl⟩,
      ⟨blank, rest, dropped digits _, isBlank', rfl⟩, rfl⟩

/-- A line that opens an item is told to be one by its mark and the blank behind it. -/
theorem LineKind.exists_of_opensItem
    (opens : opensItem line) :
    ∃ (mark : Text) (blank : Char) (rest : Text),
      IsMark mark ∧ isBlank blank ∧ line = mark ++ blank :: rest ∧
        item? line = some (.item (Pattern.numbered.extent? none line).isSome rest.trimStart) := by
  rw [opensItem, Bool.or_eq_true, Bool.or_eq_true, List.isPrefixOf_iff_prefix,
    List.isPrefixOf_iff_prefix] at opens
  rcases opens with (⟨rest, rfl⟩ | ⟨rest, rfl⟩) | isNumbered
  · refine ⟨['*'], ' ', rest, .inl rfl, rfl, rfl, ?_⟩
    rfl
  · refine ⟨['-'], ' ', rest, .inr (.inl rfl), rfl, rfl, ?_⟩
    rfl
  · rw [isNumbered]
    obtain ⟨digits, blank, rest, nonempty, areDigits, isBlank', rfl⟩ :=
      Pattern.isSome_extent?_numbered_iff.mp isNumbered
    refine ⟨digits ++ ['.'], blank, rest, .inr (.inr ⟨digits, nonempty, areDigits, rfl⟩), isBlank',
      by simp, ?_⟩
    have notDigit : ∀ character ∈ ('.' :: blank :: rest).head?, ¬ isDecimalDigit character := by
      rintro _ ⟨⟩
      decide
    have behindDigits := (takeWhile_append_of_stops areDigits notDigit).2
    obtain ⟨first, others, rfl⟩ := List.exists_cons_of_ne_nil nonempty
    have isDigit := areDigits first List.mem_cons_self
    obtain ⟨notStar, notDash⟩ := ne_of_isDecimalDigit isDigit
    unfold item?
    split
    · next starts =>
        exact (notStar (List.cons.inj starts).1).elim
    · next starts =>
        exact (notDash (List.cons.inj starts).1).elim
    · rw [behindDigits]
      simp [isBlank', isDigit]

/-- A line passes the test for items just when it opens one by the patterns. -/
theorem LineKind.isSome_item?_iff :
    (item? line).isSome ↔ opensItem line := by
  constructor
  · intro isItem
    unfold item? at isItem
    split at isItem
    · rfl
    · rfl
    · split at isItem
      · next blank rest behindDigits =>
          rw [Option.isSome_ite, Bool.and_eq_true, Option.any_eq_true] at isItem
          obtain ⟨isBlank', first, isFirst, isDigit⟩ := isItem
          have nonempty : line.takeWhile isDecimalDigit ≠ [] := by
            obtain ⟨others, rfl⟩ := List.head?_eq_some_iff.mp isFirst
            rw [List.takeWhile_cons_of_pos isDigit]
            exact List.cons_ne_nil _ _
          have isNumbered : (Pattern.numbered.extent? none line).isSome :=
            Pattern.isSome_extent?_numbered_iff.mpr
              ⟨line.takeWhile isDecimalDigit, blank, rest, nonempty,
                fun _ => List.mem_takeWhile_imp, isBlank', by
                  rw [← behindDigits, List.takeWhile_append_dropWhile]⟩
          rw [opensItem, isNumbered, Bool.or_true]
      · cases isItem
  · intro opens
    obtain ⟨_, _, _, -, -, -, found⟩ := exists_of_opensItem opens
    rw [found]
    rfl

end

/-! ## The patterns on one line -/

section

variable {line mark blanks body : Text}

/-- A line with a mark and a blank in front is a marked line. -/
theorem IsMarked.of_blank
    {blank : Char}
    {rest : Text}
    (phrase : Text.Phrase line)
    (isMark : IsMark mark)
    (isBlank' : isBlank blank)
    (shape : line = mark ++ blank :: rest) :
    IsMarked line mark (blank :: rest.takeWhile isBlank) rest.trimStart where
  line_eq := by
    rw [shape, List.cons_append, Text.trimStart, List.takeWhile_append_dropWhile]
  isMark := isMark
  blanks_ne_nil := List.cons_ne_nil _ _
  areBlanks := List.forall_mem_cons.mpr ⟨isBlank', fun _ => List.mem_takeWhile_imp⟩
  starts := by
    have nonempty : line ≠ [] := by
      simp [shape]
    have finished := phrase.finished nonempty
    exact Text.exists_head?_trimStart
      (Text.exists_getLast?_behind isBlank' (shape ▸ finished.back))

/-- A task is an item that is ticked or not and shows the text behind its box. -/
theorem Item.ofBody_of_isTask
    {sign : Char}
    {content : Text}
    (finished : Text.Finished body)
    (task : IsTask body sign content) :
    ofBody body = .mk (Span.read content) (some (sign == 'x' || sign == 'X')) none := by
  rw [ofBody, (taskBox?_eq_some_iff finished).mpr ⟨sign, task, rfl⟩]

/-- Any other body is an item that shows all of it. -/
theorem Item.ofBody_of_not_isTask
    (finished : Text.Finished body)
    (noTask : ∀ sign content, ¬ IsTask body sign content) :
    ofBody body = .mk (Span.read body) none none := by
  have noBox : taskBox? body = none := by
    refine Option.eq_none_iff_forall_ne_some.mpr fun ⟨checked, content⟩ found => ?_
    obtain ⟨sign, task, -⟩ := (taskBox?_eq_some_iff finished).mp found
    exact noTask sign content task
  rw [ofBody, noBox]

/-- Reading by the patterns never takes the mark for a part of the text. -/
theorem IsMarked.ofLine_eq
    (marked : IsMarked line mark blanks body)
    (phrase : Text.Phrase line) :
    Item.ofLine line = Item.ofBody body := by
  have finished := marked.finished phrase
  have boxBehind := Pattern.extent?_sequence Pattern.marker Pattern.box none line
  rw [marked.extent?_marker, Option.bind_some, marked.drop_marker] at boxBehind
  cases fits : Pattern.box.extent?
      (characterBefore none line (mark.length + blanks.length)) body with
  | none =>
      have noTask : ∀ sign content, ¬ IsTask body sign content := fun sign content task =>
        task.extent?_box_ne_none _ fits
      have noBox : boxed? line = none := by
        simp [boxed?, marked.extent?_marker, boxBehind, fits]
      rw [Item.ofLine, noBox, marked.extent?_marker, Item.ofBody_of_not_isTask finished noTask]
      simp only [marked.drop_marker]
  | some extent =>
      obtain ⟨sign, isSign, task⟩ := isTask_of_extent?_box finished fits
      have signBehind : (line)[mark.length + blanks.length + 1]? = some sign := by
        rw [← List.getElem?_drop, marked.drop_marker, isSign]
      have contentBehind : line.drop (mark.length + blanks.length + extent) = body.drop extent := by
        rw [← List.drop_drop, marked.drop_marker]
      have oneLine : '\n' ∉ body.drop extent := fun isBreak =>
        finished.oneLine (List.mem_of_mem_drop isBreak)
      have isBoxed : boxed? line = some (sign, body.drop extent) := by
        simp [boxed?, marked.extent?_marker, boxBehind, fits, signBehind, contentBehind, oneLine]
      rw [Item.ofLine, isBoxed, Item.ofBody_of_isTask finished task]

end

/--
On every trimmed line the patterns agree.  The line is read as an item exactly when it
opens one; it is then a mark, blanks and a body in one way only, the marker takes the mark
and the blanks, and the item is a task exactly when its body is a box, blanks and a text.
-/
theorem LineKind.item?_patterns_agree
    {line : Text}
    (phrase : Text.Phrase line) :
    ((item? line).isSome ↔ opensItem line) ∧
      (opensItem line →
        ∃ mark blanks body,
          IsMarked line mark blanks body ∧
          (∀ otherMark otherBlanks otherBody,
            IsMarked line otherMark otherBlanks otherBody →
              otherMark = mark ∧ otherBlanks = blanks ∧ otherBody = body) ∧
          Pattern.marker.extent? none line = some (mark.length + blanks.length) ∧
          item? line = some (.item (Pattern.numbered.extent? none line).isSome body) ∧
          Item.ofLine line = Item.ofBody body ∧
          (∀ sign content, IsTask body sign content →
            Item.ofBody body =
              .mk (Span.read content) (some (sign == 'x' || sign == 'X')) none) ∧
          ((∀ sign content, ¬ IsTask body sign content) →
            Item.ofBody body = .mk (Span.read body) none none)) := by
  refine ⟨isSome_item?_iff, fun opens => ?_⟩
  obtain ⟨mark, blank, rest, isMark, isBlank', shape, found⟩ := exists_of_opensItem opens
  have marked := IsMarked.of_blank phrase isMark isBlank' shape
  have finished := marked.finished phrase
  exact ⟨mark, blank :: rest.takeWhile isBlank, rest.trimStart, marked,
    fun _ _ _ => marked.eq_of_isMarked, marked.extent?_marker, found, marked.ofLine_eq phrase,
    fun _ _ => Item.ofBody_of_isTask finished, Item.ofBody_of_not_isTask finished⟩

/-- A numbered task whose blanks are no spaces, one behind the number and one behind the box. -/
theorem LineKind.item?_patterns_agree_task :
    let line : Text := "12.\u00a0[X]\u2003b".toList
    Text.Phrase line ∧ opensItem line ∧
      item? line = some (.item true "[X]\u2003b".toList) ∧
      Item.ofLine line = .mk (Span.read ['b']) (some true) none := by
  intro line
  have phrase : Text.Phrase line := by
    decide
  have opens : opensItem line := by
    decide
  have marked : IsMarked line ['1', '2', '.'] ['\u00a0'] "[X]\u2003b".toList :=
    ⟨rfl, .inr (.inr ⟨['1', '2'], by decide, List.all_eq_true.mp rfl, rfl⟩), by decide,
      List.all_eq_true.mp rfl, '[', rfl, by decide⟩
  have task : IsTask "[X]\u2003b".toList 'X' ['b'] :=
    ⟨.inr (.inl rfl), ⟨['\u2003'], by decide, List.all_eq_true.mp rfl, rfl⟩, 'b', rfl, by decide⟩
  obtain ⟨-, reads⟩ := item?_patterns_agree phrase
  obtain ⟨mark, blanks, body, -, unique, -, found, sameItem, isTask, -⟩ := reads opens
  obtain ⟨rfl, rfl, rfl⟩ := unique _ _ _ marked
  exact ⟨phrase, opens, found, sameItem.trans (isTask 'X' ['b'] task)⟩

end Guidebook
