import Guidebook.Proofs.Code.Quotations
import Guidebook.Proofs.Json.Syntax
import Guidebook.Proofs.Text.Lines

namespace Guidebook

/-!
# Keys and strings at JSON tokens

Both rules start at quotes only, so that they pass over every token but strings.
The rule for strings takes each of those.  The rule for keys takes a string in
front of a colon; of another string it passes over all but the quote that closes
it, and it depends on what follows whether a match starts there.
-/

/-- Whether the first character that is not blank is a colon. -/
def Text.ColonFirst (text : Text) : Prop :=
  text.trimStart.head? = some ':'

instance (text : Text) : Decidable text.ColonFirst :=
  inferInstanceAs (Decidable (_ = _))

/-- The run of blanks that a text starts with is its indent. -/
theorem runExtent_isBlank
    (text : Text) :
    runExtent isBlank text = text.indent := by
  rw [Text.indent, List.takeWhile_eq_take_findIdx_not,
    List.length_take_of_le List.findIdx_le_length]
  rfl

namespace Text

theorem take_indent
    (text : Text) :
    text.take text.indent = text.takeWhile isBlank :=
  (List.prefix_iff_eq_take.mp (List.takeWhile_prefix isBlank)).symm

/-- Behind its indent a text is what it is without blanks in front. -/
theorem drop_indent
    (text : Text) :
    text.drop text.indent = text.trimStart := by
  rw [← runExtent_isBlank]
  exact List.dropWhile_eq_drop_findIdx_not.symm

/-- In front of the colon there are blanks only. -/
theorem ColonFirst.take_eq
    {text : Text}
    (colon : text.ColonFirst) :
    text.take (text.indent + 1) = text.takeWhile isBlank ++ [':'] := by
  have isColon : text[text.indent]? = some ':' := by
    rw [← List.head?_drop, drop_indent]
    exact colon
  rw [List.take_add_one, take_indent, isColon]
  rfl

/-- A quote behind a text is no colon, so it does not change whether a colon comes first. -/
theorem colonFirst_append_quote_iff
    (text rest : Text) :
    (text ++ '"' :: rest).ColonFirst ↔ text.ColonFirst := by
  rw [ColonFirst, ColonFirst]
  by_cases blank : text.isBlankLine
  · have quoteFirst : trimStart ('"' :: rest) = '"' :: rest :=
      List.dropWhile_cons_of_neg (by decide)
    rw [trimStart_append_of_blank blank, quoteFirst, trimStart_eq_nil_iff.mpr blank]
    simp
  · have nonempty : text.trimStart ≠ [] := fun isNil => blank (trimStart_eq_nil_iff.mp isNil)
    rw [trimStart_append blank, List.head?_append_of_ne_nil _ nonempty]

end Text

/-! ## Quoted texts -/

/-- A character that neither opens a quotation nor closes one, nor frees what follows. -/
def isOrdinary (character : Char) : Bool :=
  character != '"' && character != '\'' && character != '\\'

/-- Ordinary characters are all but quotes of both kinds and the backslash. -/
theorem isOrdinary_iff
    {character : Char} :
    isOrdinary character ↔ character ≠ '"' ∧ character ≠ '\'' ∧ character ≠ '\\' := by
  simp [isOrdinary, and_assoc]

/-- The search for the closing quote goes through ordinary characters. -/
theorem quotedExtent?_ordinary_append
    {text : Text}
    (ordinary : ∀ character ∈ text, isOrdinary character)
    (rest : Text) :
    quotedExtent? '"' (text ++ rest) = (quotedExtent? '"' rest).map (· + text.length) := by
  induction text with
  | nil =>
      exact Option.map_id'.symm
  | cons character text inductionHypothesis =>
      obtain ⟨firstOrdinary, restOrdinary⟩ := List.forall_mem_cons.mp ordinary
      obtain ⟨noQuote, -, noEscape⟩ := isOrdinary_iff.mp firstOrdinary
      rw [List.cons_append, quotedExtent?_cons noQuote noEscape,
        inductionHypothesis restOrdinary, Option.map_map]
      rfl

namespace Json

theorem isOrdinary_of_isDigit
    {character : Char}
    (isDigit : character.isDigit) :
    isOrdinary character := by
  refine isOrdinary_iff.mpr ⟨?_, ?_, ?_⟩
  all_goals
    rintro rfl
    cases isDigit

theorem isOrdinary_of_isHexDigit
    {character : Char}
    (isHexDigit : IsHexDigit character) :
    isOrdinary character := by
  rcases isHexDigit with isDigit | isLetter
  · exact isOrdinary_of_isDigit isDigit
  · have letters :
        ['a', 'b', 'c', 'd', 'e', 'f', 'A', 'B', 'C', 'D', 'E', 'F'].all isOrdinary := by
      decide
    exact List.all_eq_true.mp letters character isLetter

/-- The search for the closing quote goes through a character or escape of a string. -/
theorem quotedExtent?_part_append
    (part : StringPart)
    (rest : Text) :
    quotedExtent? '"' (part.source ++ rest) =
      (quotedExtent? '"' rest).map (· + part.source.length) := by
  cases part with
  | plain character isPlain =>
      exact quotedExtent?_cons isPlain.2.1 isPlain.2.2 rest
  | escape mark isMark =>
      have noFeed : '\n' ∉ escapeMarks := by
        decide
      exact quotedExtent?_escape '"' (ne_of_mem_of_not_mem isMark noFeed) rest
  | code digits areDigits =>
      have ordinary : ∀ digit ∈ digits, isOrdinary digit :=
        fun digit member => isOrdinary_of_isHexDigit (areDigits.2 digit member)
      have noFeed : 'u' ≠ '\n' := by
        decide
      rw [StringPart.source, List.cons_append, List.cons_append, quotedExtent?_escape '"' noFeed,
        quotedExtent?_ordinary_append ordinary, Option.map_map]
      rfl

/-- A string is read up to the quote that closes it. -/
theorem quotedExtent?_content_append
    (content : Content)
    (behind : Text) :
    quotedExtent? '"' (content.source ++ '"' :: behind) = some (content.source.length + 1) := by
  induction content with
  | nil =>
      rfl
  | cons part content inductionHypothesis =>
      rw [Content.source_cons, List.append_assoc, quotedExtent?_part_append, inductionHypothesis,
        Option.map_some, List.length_append, Nat.add_right_comm,
        Nat.add_comm (List.length (Content.source content))]

/-- A numeral is made of ordinary characters. -/
theorem isOrdinary_of_mem_numeral
    (numeral : Numeral) :
    ∀ character ∈ numeral.source, isOrdinary character := by
  have ordinaryDigits {digits : Text} (areDigits : IsDigits digits) :
      ∀ character ∈ digits, isOrdinary character :=
    fun character member => isOrdinary_of_isDigit (areDigits.2 character member)
  have ordinarySigns : [[], ['+'], ['-']].all (·.all isOrdinary) := by
    decide
  have ordinarySign {sign : Text} (isSign : sign ∈ [[], ['+'], ['-']]) :
      ∀ character ∈ sign, isOrdinary character :=
    List.all_eq_true.mp (List.all_eq_true.mp ordinarySigns sign isSign)
  rw [Numeral.source, List.forall_mem_append, List.forall_mem_append, List.forall_mem_append]
  refine ⟨⟨⟨?_, ?_⟩, ?_⟩, ?_⟩
  · apply ordinarySign
    rcases numeral.isSign with isSign | isSign
    · rw [isSign]
      decide
    · rw [isSign]
      decide
  · rcases numeral.isWhole with isZero | ⟨areDigits, -⟩
    · rw [isZero]
      exact List.forall_mem_singleton.mpr rfl
    · exact ordinaryDigits areDigits
  · rcases numeral.isFraction with isNil | ⟨digits, areDigits, isFraction⟩
    · rw [isNil]
      exact List.forall_mem_nil _
    · rw [isFraction]
      exact List.forall_mem_cons.mpr ⟨rfl, ordinaryDigits areDigits⟩
  · rcases numeral.isExponent with isNil | isWritten
    · rw [isNil]
      exact List.forall_mem_nil _
    · obtain ⟨mark, isMark, sign, isSign, digits, areDigits, isExponent⟩ := isWritten
      have ordinaryMarks : ['e', 'E'].all isOrdinary := by
        decide
      rw [isExponent]
      exact List.forall_mem_cons.mpr
        ⟨List.all_eq_true.mp ordinaryMarks mark isMark,
          List.forall_mem_append.mpr ⟨ordinarySign isSign, ordinaryDigits areDigits⟩⟩

/-- Quotes and backslashes stand in strings only. -/
theorem isOrdinary_of_mem_source
    {token : Token}
    (noString : token.content? = none) :
    ∀ character ∈ token.source, isOrdinary character := by
  cases token with
  | blank character isBlank =>
      have ordinaryBlanks : [' ', '\t', '\n', '\r'].all isOrdinary := by
        decide
      exact List.forall_mem_singleton.mpr (List.all_eq_true.mp ordinaryBlanks character isBlank)
  | word choice =>
      cases choice with
      | true | false | null =>
          exact List.all_eq_true.mp rfl
  | number numeral =>
      exact isOrdinary_of_mem_numeral numeral
  | string content =>
      cases noString
  | openArray | closeArray | openObject | closeObject | comma | colon =>
      exact List.forall_mem_singleton.mpr rfl

end Json

namespace Rule

open Json

/-- No key starts at a character other than a double quote. -/
theorem matchAt?_jsonKey_of_ne
    {character : Char}
    (noQuote : character ≠ '"')
    (before : Option Char)
    (rest : Text) :
    jsonKey.matchAt? before (character :: rest) = none := by
  have opens : jsonKey.body.Opens (· == '"') :=
    Pattern.opens_quoted '"'
  exact matchAt?_eq_none_of_opens rfl opens (beq_false_of_ne noQuote) before rest

/-- No string starts at an ordinary character. -/
theorem matchAt?_string_of_ordinary
    {character : Char}
    (ordinary : isOrdinary character)
    (before : Option Char)
    (rest : Text) :
    string.matchAt? before (character :: rest) = none := by
  obtain ⟨noDouble, noSingle, -⟩ := isOrdinary_iff.mp ordinary
  exact matchAt?_string_of_ne noDouble noSingle before rest

/-- The trail of a key fits just where a colon comes first behind blanks. -/
theorem extent?_any_colon
    (before : Option Char)
    (text : Text) :
    (Pattern.any isBlank ++ Pattern.character ':').extent? before text =
      if text.ColonFirst then some (text.indent + 1) else none := by
  rw [Pattern.extent?_sequence, Pattern.extent?, Option.bind_some, runExtent_isBlank,
    text.drop_indent]
  cases behind : text.trimStart with
  | nil =>
      have noColon : ¬ text.ColonFirst := by
        simp [Text.ColonFirst, behind]
      rw [if_neg noColon]
      rfl
  | cons first rest =>
      have isColon : text.ColonFirst ↔ first = ':' := by
        simp [Text.ColonFirst, behind]
      rw [Pattern.character, Pattern.extent?]
      by_cases colon : first = ':'
      · rw [if_pos (isColon.mpr colon), if_pos (beq_iff_eq.mpr colon)]
        rfl
      · rw [if_neg (isColon.not.mpr colon), if_neg (by simpa using colon)]
        rfl

/-- A match of the rule for keys ends behind a colon that follows the quoted text. -/
theorem matchAt?_jsonKey
    {rest : Text}
    {extent : Nat}
    (closes : quotedExtent? '"' rest = some extent)
    (before : Option Char) :
    jsonKey.matchAt? before ('"' :: rest) =
      if Text.ColonFirst (rest.drop extent) then
        some ⟨0, extent + 1, Text.indent (rest.drop extent) + 1⟩
      else none := by
  have isBody : jsonKey.body.extent? before ('"' :: rest) = some (extent + 1) := by
    show (Pattern.quoted '"').extent? before ('"' :: rest) = _
    rw [Pattern.extent?, if_pos rfl, closes]
    rfl
  have isTrail (last : Option Char) :
      contextExtent? jsonKey.trail last (rest.drop extent) =
        if Text.ColonFirst (rest.drop extent) then some (Text.indent (rest.drop extent) + 1)
        else none :=
    extent?_any_colon last (rest.drop extent)
  split
  · next colon =>
      refine matchAt?_eq_some_iff.mpr ⟨rfl, isBody, ?_, Nat.succ_pos _⟩
      rw [Match.bodyEnd, Nat.zero_add, List.drop_succ_cons, isTrail, if_pos colon]
  · next noColon =>
      refine Option.eq_none_iff_forall_ne_some.mpr ?_
      rintro ⟨lead, body, trail⟩ isMatch
      obtain ⟨leadFits, bodyFits, trailFits, -⟩ := matchAt?_eq_some_iff.mp isMatch
      obtain rfl : 0 = lead := Option.some.inj leadFits
      obtain rfl : extent + 1 = body := Option.some.inj (isBody.symm.trans bodyFits)
      rw [Match.bodyEnd, Nat.zero_add, List.drop_succ_cons, isTrail, if_neg noColon] at trailFits
      cases trailFits

/-- No key starts at a quote that is not closed. -/
theorem matchAt?_jsonKey_of_unclosed
    {rest : Text}
    (unclosed : quotedExtent? '"' rest = none)
    (before : Option Char) :
    jsonKey.matchAt? before ('"' :: rest) = none := by
  refine Option.eq_none_iff_forall_ne_some.mpr ?_
  rintro ⟨lead, body, trail⟩ isMatch
  obtain ⟨leadFits, bodyFits, -⟩ := matchAt?_eq_some_iff.mp isMatch
  obtain rfl : 0 = lead := Option.some.inj leadFits
  have noBody : jsonKey.body.extent? before ('"' :: rest) = none := by
    show (Pattern.quoted '"').extent? before ('"' :: rest) = _
    rw [Pattern.extent?, if_pos rfl, unclosed]
    rfl
  cases noBody.symm.trans bodyFits

/-- A string starts at each quote that is closed, and ends with the closing one. -/
theorem matchAt?_string
    {rest : Text}
    {extent : Nat}
    (closes : quotedExtent? '"' rest = some extent)
    (before : Option Char) :
    string.matchAt? before ('"' :: rest) = some ⟨0, extent + 1, 0⟩ := by
  have isBody : string.body.extent? before ('"' :: rest) = some (extent + 1) := by
    show (Pattern.quoted '"' <|> Pattern.quoted '\'').extent? before ('"' :: rest) = _
    rw [Pattern.extent?_choice, Pattern.extent?, if_pos rfl, closes]
    rfl
  exact matchAt?_eq_some_iff.mpr ⟨rfl, isBody, rfl, Nat.succ_pos _⟩

/-! ## Tokens that are passed over or claimed -/

/-- The rule for keys passes over a text without double quotes. -/
theorem passes_jsonKey_of_noQuote
    {text : Text}
    (noQuote : '"' ∉ text)
    (behind : Text) :
    jsonKey.Passes text behind :=
  passes_of_forall
    (fun _ member => matchAt?_jsonKey_of_ne (ne_of_mem_of_not_mem member noQuote)) behind

/-- The rule for strings passes over ordinary characters. -/
theorem passes_string_of_ordinary
    {text : Text}
    (ordinary : ∀ character ∈ text, isOrdinary character)
    (behind : Text) :
    string.Passes text behind :=
  passes_of_forall
    (fun character member => matchAt?_string_of_ordinary (ordinary character member)) behind

/-- No match starts at a quote from which the text up to the closing one is not a key. -/
theorem matchAt?_jsonKey_eq_none
    (content : Content)
    {behind : Text}
    (noColon : ¬ behind.ColonFirst)
    (before : Option Char) :
    jsonKey.matchAt? before ('"' :: (content.source ++ '"' :: behind)) = none := by
  rw [matchAt?_jsonKey (quotedExtent?_content_append content behind), if_neg]
  rw [← List.drop_drop, List.drop_left]
  exact noColon

/-- A string with no colon behind it is passed over up to the quote that closes it. -/
theorem passes_jsonKey_content
    (content : Content)
    {behind : Text}
    (noColon : ¬ behind.ColonFirst) :
    jsonKey.Passes content.source ('"' :: behind) := by
  induction content with
  | nil =>
      exact passes_nil _
  | cons part content inductionHypothesis =>
      rw [Content.source_cons]
      refine Passes.append ?_ inductionHypothesis
      cases part with
      | plain character isPlain =>
          exact passes_cons (fun before => matchAt?_jsonKey_of_ne isPlain.2.1 before _)
            (passes_nil _)
      | escape mark isMark =>
          have noQuote : '\\' ≠ '"' := by
            decide
          refine passes_cons (fun before => matchAt?_jsonKey_of_ne noQuote before _)
            (passes_cons ?_ (passes_nil _))
          intro before
          by_cases isQuote : mark = '"'
          · -- From here the rule reads the rest of the string.
            rw [isQuote]
            exact matchAt?_jsonKey_eq_none content noColon before
          · exact matchAt?_jsonKey_of_ne isQuote before _
      | code digits areDigits =>
          apply passes_jsonKey_of_noQuote
          rintro (_ | ⟨_, _ | ⟨_, isDigit⟩⟩)
          cases isOrdinary_of_isHexDigit (areDigits.2 '"' isDigit)

/-- The rule for keys passes over a string up to its closing quote when no colon follows. -/
theorem passes_jsonKey_opening
    (content : Content)
    {behind : Text}
    (noColon : ¬ behind.ColonFirst) :
    jsonKey.Passes ('"' :: content.source) ('"' :: behind) :=
  passes_cons (matchAt?_jsonKey_eq_none content noColon) (passes_jsonKey_content content noColon)

/-- The rule for keys passes over a whole string when no colon follows and none starts at its end. -/
theorem passes_jsonKey_string
    (content : Content)
    {behind : Text}
    (noColon : ¬ behind.ColonFirst)
    (noMatch : ∀ before, jsonKey.matchAt? before ('"' :: behind) = none) :
    jsonKey.Passes (Token.source (.string content)) behind :=
  Passes.append (passes_jsonKey_opening content noColon) (passes_cons noMatch (passes_nil _))

/-- The rule for keys takes a string that a colon follows. -/
theorem takes_jsonKey_string
    (content : Content)
    {behind : Text}
    (colon : behind.ColonFirst) :
    jsonKey.Takes (Token.source (.string content)) behind := by
  intro before
  refine ⟨behind.indent + 1, ?_, passes_jsonKey_of_noQuote ?_ _⟩
  · have closes := quotedExtent?_content_append content behind
    have behindClosing :
        (content.source ++ '"' :: behind).drop (content.source.length + 1) = behind := by
      rw [← List.drop_drop, List.drop_left]
      rfl
    rw [Token.source_string_append, matchAt?_jsonKey closes, behindClosing, if_pos colon,
      Token.length_source_string]
  · rw [colon.take_eq, List.mem_append, not_or]
    constructor
    · intro isBlank
      cases List.mem_takeWhile_imp isBlank
    · decide

/-- The rule for strings takes every string. -/
theorem takes_string
    (content : Content)
    (behind : Text) :
    string.Takes (Token.source (.string content)) behind := by
  intro before
  refine ⟨0, ?_, passes_nil _⟩
  rw [Token.source_string_append, matchAt?_string (quotedExtent?_content_append content behind),
    Token.length_source_string]

end Rule

end Guidebook
