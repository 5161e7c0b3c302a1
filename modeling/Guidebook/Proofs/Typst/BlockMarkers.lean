import Guidebook.Proofs.Typst.Passages
import Mathlib.Data.List.DropRight

namespace Guidebook

/-!
# Text that stands first

What stands first on a line, in content between brackets or behind a marker is read as
the start of a heading, an item or a term if it looks like one.  The signs that these
start with are escaped in every text, but a number with a full stop and a blank is not.
-/

namespace Typst

/-- Whether a text starts like a numbered item: with digits, a full stop and a blank. -/
def isNumbered (text : Text) : Bool :=
  text.head?.any Char.isDigit && ['.', ' '].isPrefixOf (text.dropWhile Char.isDigit)

/-- Whether markup that stands first is read as the start of a heading, an item or a term. -/
def opensBlock (markup : Text) : Bool :=
  markup.head?.any ['=', '-', '+', '/'].contains || isNumbered markup

/-- The line that some markup ends in. -/
def lastLine (markup : Text) : Line :=
  markup.rtakeWhile (· ≠ '\n')

/-- Whether a line is the marker of a heading. -/
def isHeadingMarker (line : Line) : Bool :=
  line.head? == some '=' && line.dropWhile (· == '=') == [' ']

/-- Whether a line is the marker of an item, with a task box or without one. -/
def isItemMarker (line : Line) : Bool :=
  (ListRow.ofLine? line).any fun row =>
    ([none, some true, some false].map taskBox).contains row.shown

/-- Whether some markup ends in a bracket that opens content, and not in an escaped one. -/
def endsInOpening (markup : Text) : Bool :=
  markup.getLast? == some '[' && markup.dropLast.getLast? != some '\\'

/-- Whether a line has no more on it than a marker. -/
def isLead (line : Line) : Bool :=
  line.isEmpty || isHeadingMarker line || isItemMarker line

/-- Whether what comes behind some markup stands first on a line, in content or behind a marker. -/
def standsFirst (before : Text) : Bool :=
  endsInOpening before || isLead (lastLine before)

/-- Markup that does not carry a number on, nor the signs that make it a marker. -/
def Stops (markup : Text) : Prop :=
  ∀ first ∈ markup.head?, ¬ first.isDigit ∧ first ∉ ['.', ' ']

/-! ## Text as a marker -/

/-- Markup that starts apart from numbers does not carry one on. -/
theorem stops_of_head?
    {markup : Text}
    {first : Char}
    (isFirst : markup.head? = some first)
    (apart : ¬ first.isDigit ∧ first ∉ ['.', ' ']) :
    Stops markup := by
  intro other isOther
  rw [isFirst] at isOther
  cases isOther
  exact apart

/-- Markup that carries no number on does not do so with more behind it. -/
theorem Stops.append
    {markup : Text}
    (stops : Stops markup)
    (nonempty : markup ≠ [])
    (behind : Text) :
    Stops (markup ++ behind) := by
  rw [Stops, List.head?_append_of_ne_nil _ nonempty]
  exact stops

/-- No sign of markup is a digit. -/
theorem not_isDigit_of_isMarkup
    {character : Char}
    (isMark : isMarkup character) :
    ¬ character.isDigit := by
  rw [isMarkup, List.contains_iff_mem] at isMark
  have notDigit := (List.all_eq_true (p := (!Char.isDigit ·))).mp (by decide) character isMark
  simpa using notDigit

/-- What escaped text starts with is a backslash, or the first character if that means nothing. -/
theorem head?_escape_append
    (character : Char)
    (rest behind : Text) :
    (escape (character :: rest) ++ behind).head? =
      some (if isMarkup character then '\\' else character) := by
  rw [escape, List.flatMap_cons, escapeCharacter]
  split
  · rfl
  · rfl

/-- Digits in front of escaped text are those in front of the text. -/
theorem dropWhile_isDigit_escape_append
    {behind : Text}
    (stops : Stops behind)
    (text : Text) :
    (escape text ++ behind).dropWhile Char.isDigit =
      escape (text.dropWhile Char.isDigit) ++ behind := by
  induction text with
  | nil =>
      cases behind with
      | nil =>
          rfl
      | cons first rest =>
          exact List.dropWhile_cons_of_neg (stops first rfl).1
  | cons character rest inductionHypothesis =>
      by_cases isDigit : character.isDigit
      · have plain : ¬ isMarkup character :=
          fun isMark => not_isDigit_of_isMarkup isMark isDigit
        rw [List.dropWhile_cons_of_pos isDigit, ← inductionHypothesis, escape, List.flatMap_cons,
          escapeCharacter, if_neg plain]
        exact List.dropWhile_cons_of_pos isDigit
      · obtain ⟨others, shape⟩ :=
          List.head?_eq_some_iff.mp (head?_escape_append character rest behind)
        have notDigit : ¬ (if isMarkup character then '\\' else character).isDigit := by
          split
          · decide
          · exact isDigit
        rw [List.dropWhile_cons_of_neg isDigit, shape, List.dropWhile_cons_of_neg notDigit]

/-- Signs without a meaning stand at the start of a text just when they do so once it is escaped. -/
theorem isPrefixOf_escape_append
    {signs : Text}
    (plain : ∀ sign ∈ signs, ¬ isMarkup sign)
    {behind : Text}
    (apart : ∀ first ∈ behind.head?, first ∉ signs)
    (text : Text) :
    signs.isPrefixOf (escape text ++ behind) = signs.isPrefixOf text := by
  induction signs generalizing text with
  | nil =>
      rfl
  | cons sign signs inductionHypothesis =>
      obtain ⟨signPlain, signsPlain⟩ := List.forall_mem_cons.mp plain
      cases text with
      | nil =>
          cases behind with
          | nil =>
              rfl
          | cons first rest =>
              have differs : sign ≠ first :=
                fun same => apart first rfl (same ▸ List.mem_cons_self)
              simp [escape, List.isPrefixOf, differs]
      | cons character rest =>
          rw [escape, List.flatMap_cons, ← escape, escapeCharacter]
          split
          · next isMark =>
              have notBackslash : sign ≠ '\\' :=
                fun same => signPlain (same ▸ by decide)
              have differs : sign ≠ character :=
                fun same => signPlain (same ▸ isMark)
              change (sign == '\\' && _) = (sign == character && _)
              rw [beq_false_of_ne notBackslash, beq_false_of_ne differs, Bool.false_and,
                Bool.false_and]
          · have apartLater : ∀ first ∈ behind.head?, first ∉ signs :=
              fun first isFirst inSigns => apart first isFirst (List.mem_cons_of_mem _ inSigns)
            rw [List.singleton_append, List.cons_append, List.isPrefixOf, List.isPrefixOf,
              inductionHypothesis signsPlain apartLater]

/-- A text in markup is a marker just when it is a number with a full stop and a blank. -/
theorem opensBlock_escape_append
    {text behind : Text}
    (nonempty : text ≠ [])
    (stops : Stops behind) :
    opensBlock (escape text ++ behind) = isNumbered text := by
  obtain ⟨character, rest, rfl⟩ := List.exists_cons_of_ne_nil nonempty
  have signsPlain : ∀ sign ∈ ['.', ' '], ¬ isMarkup sign := by
    simp [isMarkup]
  have signsApart : ∀ first ∈ behind.head?, first ∉ ['.', ' '] :=
    fun first isFirst => (stops first isFirst).2
  have isFirst := head?_escape_append character rest behind
  rw [opensBlock, isNumbered, isNumbered, dropWhile_isDigit_escape_append stops,
    isPrefixOf_escape_append signsPlain signsApart, isFirst]
  by_cases isMark : isMarkup character
  · have notDigit := not_isDigit_of_isMarkup isMark
    simp [isMark, notDigit]
  · have signsMark : ∀ sign ∈ ['=', '-', '+', '/'], isMarkup sign := by
      simp [isMarkup]
    have notSign : ¬ ['=', '-', '+', '/'].contains character :=
      fun isSign => isMark (signsMark character (List.contains_iff_mem.mp isSign))
    rw [if_neg isMark, Option.any_some, Bool.eq_false_iff.mpr notSign]
    rfl

/-! ## Places where text stands first -/

/-- Some markup is empty or ends with a line end. -/
def AtLineStart (markup : Text) : Prop :=
  lastLine markup = []

theorem atLineStart_nil :
    AtLineStart [] :=
  List.rtakeWhile_nil _

/-- Behind a line feed a new line starts, whatever is in front. -/
theorem atLineStart_append
    (front : Text)
    {back : Text}
    (ends : back.getLast? = some '\n') :
    AtLineStart (front ++ back) := by
  obtain ⟨line, rfl⟩ := List.getLast?_eq_some_iff.mp ends
  rw [AtLineStart, lastLine, ← List.append_assoc]
  exact List.rtakeWhile_concat_neg _ _ _ (by decide)

/-- Signs behind a line feed are the last line. -/
theorem lastLine_append
    {front : Text}
    (atLineStart : AtLineStart front)
    {line : Line}
    (oneLine : '\n' ∉ line) :
    lastLine (front ++ line) = line := by
  induction line using List.reverseRecOn with
  | nil =>
      rw [List.append_nil]
      exact atLineStart
  | append_singleton line last inductionHypothesis =>
      rw [List.mem_append, List.mem_singleton, not_or] at oneLine
      have notEnd : decide (last ≠ '\n') = true :=
        decide_eq_true (Ne.symm oneLine.2)
      rw [lastLine, ← List.append_assoc, List.rtakeWhile_concat_pos (· ≠ '\n') _ _ notEnd,
        ← lastLine, inductionHypothesis oneLine.1]

/-- Content behind a lead on a new line stands first there. -/
theorem standsFirst_behind_lead
    {front : Text}
    (atLineStart : AtLineStart front)
    {line : Line}
    (oneLine : '\n' ∉ line)
    (lead : isLead line) :
    standsFirst (front ++ line) := by
  rw [standsFirst, lastLine_append atLineStart oneLine, lead, Bool.or_true]

/-- The marks of a heading are a lead. -/
theorem isLead_headingMarker
    (more : Nat) :
    isLead (List.replicate (more + 1) '=' ++ [' ']) := by
  have signs : ∀ sign ∈ List.replicate (more + 1) '=', (sign == '=') = true := by
    intro sign member
    rw [List.eq_of_mem_replicate member]
    rfl
  have blank : ∀ first ∈ [' '].head?, ¬ (first == '=') = true := by
    simp
  have isHeading : isHeadingMarker (List.replicate (more + 1) '=' ++ [' ']) := by
    rw [isHeadingMarker, (takeWhile_append_of_stops signs blank).2]
    rfl
  rw [isLead, isHeading, Bool.or_true, Bool.true_or]

/-- The mark of an item is a lead, with its task box if it has one. -/
theorem isLead_itemMarker
    (level : Nat)
    (ordered : Bool)
    (checked : Option Bool) :
    isLead (ListRow.line ⟨level, ordered, taskBox checked⟩) := by
  have isBox : taskBox checked ∈ [none, some true, some false].map taskBox := by
    apply List.mem_map_of_mem
    match checked with
    | none | some true | some false =>
        decide
  have isItem : isItemMarker (ListRow.line ⟨level, ordered, taskBox checked⟩) := by
    rw [isItemMarker, ListRow.ofLine?_line, Option.any_some, List.contains_iff_mem]
    exact isBox
  rw [isLead, isItem, Bool.or_true]

/-- A bracket opens content unless a backslash is in front of it. -/
theorem standsFirst_behind_opening
    (front : Text)
    {last : Char}
    (notBackslash : last ≠ '\\') :
    standsFirst (front ++ [last, '[']) := by
  have opens : endsInOpening (front ++ [last, '[']) := by
    rw [endsInOpening, ← List.singleton_append, ← List.append_assoc, List.dropLast_concat]
    simp [notBackslash]
  rw [standsFirst, opens, Bool.true_or]

/-- Content in brackets stands first in them, wherever the call stands. -/
theorem standsFirst_behind_start
    (front : Text)
    (wrapper : Wrapper) :
    standsFirst (front ++ wrapper.start) := by
  have shape : ∃ before last, wrapper.start = before ++ [last, '['] ∧ last ≠ '\\' := by
    cases wrapper with
    | strong =>
        exact ⟨"#stron".toList, 'g', rfl, by decide⟩
    | emph =>
        exact ⟨"#emp".toList, 'h', rfl, by decide⟩
    | strike =>
        exact ⟨"#strik".toList, 'e', rfl, by decide⟩
    | link url =>
        exact ⟨"#link".toList ++ '(' :: quote url, ')',
          by simp [Wrapper.start, Wrapper.word, Wrapper.argument], by decide⟩
  obtain ⟨before, last, isStart, notBackslash⟩ := shape
  rw [isStart, ← List.append_assoc]
  exact standsFirst_behind_opening _ notBackslash

/-- A marker ends with a blank. -/
theorem getLast?_of_isLead
    {line : Line}
    (lead : isLead line)
    (nonempty : line ≠ []) :
    line.getLast? = some ' ' := by
  rw [isLead, Bool.or_eq_true, Bool.or_eq_true] at lead
  rcases lead with (isEmpty | isHeading) | isItem
  · exact (nonempty (List.isEmpty_iff.mp isEmpty)).elim
  · rw [isHeadingMarker, Bool.and_eq_true, beq_iff_eq, beq_iff_eq] at isHeading
    obtain ⟨front, whole⟩ := List.dropWhile_suffix (l := line) (· == '=')
    rw [← whole, isHeading.2, List.getLast?_concat]
  · rw [isItemMarker, Option.any_eq_true] at isItem
    obtain ⟨row, isRow, isBox⟩ := isItem
    obtain ⟨marker, front, whole⟩ := ListRow.exists_suffix_of_ofLine? isRow
    obtain ⟨checked, -, isShown⟩ := List.mem_map.mp (List.contains_iff_mem.mp isBox)
    have blankLast : (marker :: ' ' :: row.shown).getLast? = some ' ' := by
      rw [← isShown]
      match checked with
      | none | some true | some false =>
          rfl
    rw [← whole, List.getLast?_append, blankLast, Option.some_or]

/-- Nothing stands first behind a call. -/
theorem not_standsFirst_behind_call
    (front : Text)
    {call : Text}
    (isCall : IsCall call) :
    ¬ standsFirst (front ++ call) := by
  obtain ⟨inside, rfl⟩ := isCall
  have notOpening : endsInOpening (front ++ '#' :: (inside ++ [';'])) = false := by
    rw [endsInOpening, ← List.cons_append, ← List.append_assoc, List.getLast?_concat]
    rfl
  have semicolonLast :
      lastLine (front ++ '#' :: (inside ++ [';'])) =
        lastLine (front ++ '#' :: inside) ++ [';'] := by
    rw [← List.cons_append, ← List.append_assoc]
    exact List.rtakeWhile_concat_pos (· ≠ '\n') _ _ (by decide)
  rw [standsFirst, notOpening, Bool.false_or, semicolonLast]
  intro lead
  have blankLast := getLast?_of_isLead lead (by simp)
  rw [List.getLast?_concat] at blankLast
  cases blankLast

end Typst

end Guidebook
