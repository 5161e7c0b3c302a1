import Guidebook.Json.Printing
import Guidebook.Proofs.Json.Syntax

namespace Guidebook

/-!
# Printed JSON is valid

Whatever value is printed, the text is a row of tokens which make up a value once the
blanks between them are left out: every string is escaped as it has to be, and no
number starts with a zero that it does not need.
-/

namespace Json

/-- A text that is written by the rules of JSON. -/
def IsValid (text : Text) : Prop :=
  ∃ tokens, Token.sources tokens = text ∧ IsText tokens

/-- A text is a row of tokens, which are given ones without the blanks between them. -/
def Spells (text : Text) (tokens : List Token) : Prop :=
  ∃ spelled, Token.sources spelled = text ∧ spelled.filter (!·.isBlank) = tokens

namespace Spells

theorem nil :
    Spells [] [] :=
  ⟨[], rfl, rfl⟩

/-- Texts that spell tokens spell all of them one behind the other. -/
theorem append
    {text later : Text}
    {tokens others : List Token}
    (first : Spells text tokens)
    (second : Spells later others) :
    Spells (text ++ later) (tokens ++ others) := by
  obtain ⟨spelled, rfl, rfl⟩ := first
  obtain ⟨spelledLater, rfl, rfl⟩ := second
  exact ⟨spelled ++ spelledLater, Token.sources_append _ _, List.filter_append _ _⟩

/-- A token that is not blank is spelled by its source. -/
theorem token
    (token : Token)
    (notBlank : token.isBlank = false) :
    Spells token.source [token] :=
  ⟨[token], by simp [Token.sources], by simp [notBlank]⟩

/-- Blanks spell nothing. -/
theorem blanks
    {text : Text}
    (areBlanks : ∀ character ∈ text, character ∈ [' ', '\t', '\n', '\r']) :
    Spells text [] := by
  induction text with
  | nil =>
      exact nil
  | cons character rest inductionHypothesis =>
      obtain ⟨isBlank, restBlank⟩ := List.forall_mem_cons.mp areBlanks
      have first : Spells [character] [] :=
        ⟨[.blank character isBlank], rfl, rfl⟩
      exact first.append (inductionHypothesis restBlank)

/-- The start of a line is made of blanks and spells nothing. -/
theorem lineStart
    (depth : Nat) :
    Spells (Json.lineStart depth) [] := by
  refine blanks ?_
  intro character member
  rcases List.mem_cons.mp member with rfl | isSpace
  · decide
  · rw [List.eq_of_mem_replicate isSpace]
    decide

end Spells

/-! Strings and numbers. -/

/-- The digits of an escape are hexadecimal. -/
theorem isHexDigit_hexDigit :
    ∀ value < 16, IsHexDigit (hexDigit value) := by
  unfold IsHexDigit
  decide

/-- A quoted character is a part of a string. -/
theorem exists_source_eq_quoteCharacter
    (character : Char) :
    ∃ part : StringPart, part.source = quoteCharacter character := by
  fun_cases quoteCharacter character with
  | case8 _ _ _ _ _ _ _ isControl =>
      have areDigits :
          ∀ digit ∈ ['0', '0', hexDigit (character.toNat / 16), hexDigit (character.toNat % 16)],
            IsHexDigit digit := by
        have high := isHexDigit_hexDigit (character.toNat / 16) (by omega)
        have low := isHexDigit_hexDigit (character.toNat % 16) (by omega)
        have zero : IsHexDigit '0' := .inl (by decide)
        simp [high, low, zero]
      exact ⟨.code _ ⟨rfl, areDigits⟩, rfl⟩
  | case9 notQuote notBackslash _ _ _ _ _ notControl =>
      exact ⟨.plain character ⟨by omega, notQuote, notBackslash⟩, rfl⟩
  | _ =>
      exact ⟨.escape _ (by decide), rfl⟩

/-- A quoted text is a string. -/
theorem exists_source_eq_quote
    (text : String) :
    ∃ content : Content, Token.source (.string content) = quote text := by
  have escaped : ∃ content : Content, content.source = text.toList.flatMap quoteCharacter := by
    induction text.toList with
    | nil =>
        exact ⟨[], rfl⟩
    | cons character rest inductionHypothesis =>
        obtain ⟨part, isPart⟩ := exists_source_eq_quoteCharacter character
        obtain ⟨content, isContent⟩ := inductionHypothesis
        refine ⟨part :: content, ?_⟩
        rw [Content.source_cons, isPart, isContent, List.flatMap_cons]
  obtain ⟨content, isContent⟩ := escaped
  refine ⟨content, ?_⟩
  rw [Token.source, isContent, quote, List.cons_append]

/-- Only the zero is written with a zero in front. -/
theorem head?_toDigits
    {value : Nat}
    (isPositive : 0 < value) :
    (Nat.toDigits 10 value).head? ≠ some '0' := by
  induction value using Nat.strongRecOn with
  | _ value inductionHypothesis =>
      rcases Nat.lt_or_ge value 10 with isDigit | isLong
      · have digits : ∀ value < 10, 0 < value → Nat.digitChar value ≠ '0' := by decide
        rw [Nat.toDigits_of_lt_base isDigit]
        simpa using digits value isDigit isPositive
      · have shorter := inductionHypothesis (value / 10) (by omega) (by omega)
        rw [Nat.toDigits_of_base_le (by decide) isLong,
          List.head?_append_of_ne_nil _ Nat.toDigits_ne_nil]
        exact shorter

/-- A number is printed without leading zeros. -/
theorem isWhole_decimal
    (value : Nat) :
    Text.decimal value = ['0'] ∨
      (IsDigits (Text.decimal value) ∧ (Text.decimal value).head? ≠ some '0') := by
  rcases Nat.eq_zero_or_pos value with rfl | isPositive
  · exact .inl rfl
  · exact .inr ⟨⟨Nat.toDigits_ne_nil, fun digit member =>
      Nat.isDigit_of_mem_toDigits (by decide) (by decide) member⟩, head?_toDigits isPositive⟩

/-- A number as it is printed: without sign, fraction and exponent. -/
def Numeral.ofNat (value : Nat) : Numeral where
  sign := []
  whole := Text.decimal value
  fraction := []
  exponent := []
  isSign := .inl rfl
  isWhole := isWhole_decimal value
  isFraction := .inl rfl
  isExponent := .inl rfl

/-- A number is printed as its numeral. -/
theorem source_ofNat
    (value : Nat) :
    (Numeral.ofNat value).source = Text.decimal value := by
  simp [Numeral.source, Numeral.ofNat]

/-- The name of a member is spelled by a string and the colon behind it. -/
theorem exists_spells_quote
    (name : String) :
    ∃ content : Content, Spells (quote name ++ ": ".toList) [.string content, .colon] := by
  obtain ⟨content, isContent⟩ := exists_source_eq_quote name
  have space : Spells [' '] [] := .blanks (by simp)
  refine ⟨content, ?_⟩
  rw [← isContent]
  exact (Spells.token (.string content) rfl).append ((Spells.token .colon rfl).append space)

/-! Values. -/

mutual

/-- A printed value is spelled by tokens that make up a value. -/
theorem exists_isValue_print
    (depth : Nat)
    (value : Json) :
    ∃ tokens, Spells (value.print depth) tokens ∧ IsValue tokens := by
  cases value with
  | null =>
      exact ⟨_, .token (.word .null) rfl, .word .null⟩
  | boolean value =>
      cases value with
      | true =>
          exact ⟨_, .token (.word .true) rfl, .word .true⟩
      | false =>
          exact ⟨_, .token (.word .false) rfl, .word .false⟩
  | number value =>
      have spelled : Spells (Text.decimal value) [.number (.ofNat value)] := by
        rw [← source_ofNat]
        exact .token (.number (.ofNat value)) rfl
      exact ⟨_, spelled, .number _⟩
  | string text =>
      obtain ⟨content, isContent⟩ := exists_source_eq_quote text
      rw [print, ← isContent]
      exact ⟨_, .token (.string content) rfl, .string content⟩
  | array items =>
      cases items with
      | nil =>
          exact ⟨_, (Spells.token .openArray rfl).append (.token .closeArray rfl), .emptyArray⟩
      | cons item others =>
          obtain ⟨first, spelledFirst, isValue⟩ := exists_isValue_print (depth + 1) item
          obtain ⟨later, spelledLater, isItems⟩ := exists_isItems_printItems (depth + 1) others
          have whole := (Spells.token .openArray rfl).append ((Spells.lineStart (depth + 1)).append
            ((spelledFirst.append spelledLater).append
              ((Spells.lineStart depth).append (.token .closeArray rfl))))
          refine ⟨_, ?_, .array (isItems first isValue)⟩
          simpa [print, Token.source] using whole
  | object members =>
      cases members with
      | nil =>
          exact ⟨_, (Spells.token .openObject rfl).append (.token .closeObject rfl), .emptyObject⟩
      | cons member others =>
          obtain ⟨name, value⟩ := member
          obtain ⟨content, named⟩ := exists_spells_quote name
          obtain ⟨first, spelledFirst, isValue⟩ := exists_isValue_print (depth + 1) value
          obtain ⟨later, spelledLater, isMembers⟩ :=
            exists_isMembers_printMembers (depth + 1) others
          have whole := (Spells.token .openObject rfl).append ((Spells.lineStart (depth + 1)).append
            (((named.append spelledFirst).append spelledLater).append
              ((Spells.lineStart depth).append (.token .closeObject rfl))))
          refine ⟨_, ?_, .object (isMembers content first isValue)⟩
          simpa [print, Token.source] using whole

/-- The items behind a first one are spelled by tokens that go on with it. -/
theorem exists_isItems_printItems
    (depth : Nat)
    (items : List Json) :
    ∃ tokens,
      Spells (printItems depth items) tokens ∧
        ∀ first, IsValue first → IsItems (first ++ tokens) := by
  cases items with
  | nil =>
      refine ⟨[], .nil, ?_⟩
      intro first isValue
      rw [List.append_nil]
      exact .last isValue
  | cons item others =>
      obtain ⟨next, spelledNext, nextIsValue⟩ := exists_isValue_print depth item
      obtain ⟨later, spelledLater, isItems⟩ := exists_isItems_printItems depth others
      have whole := (Spells.token .comma rfl).append
        ((Spells.lineStart depth).append (spelledNext.append spelledLater))
      refine ⟨_, by simpa [printItems, Token.source] using whole, ?_⟩
      intro first isValue
      exact .cons isValue (isItems next nextIsValue)

/-- The members behind a first one are spelled by tokens that go on with it. -/
theorem exists_isMembers_printMembers
    (depth : Nat)
    (members : List (String × Json)) :
    ∃ tokens,
      Spells (printMembers depth members) tokens ∧
        ∀ name first, IsValue first → IsMembers (.string name :: .colon :: first ++ tokens) := by
  cases members with
  | nil =>
      refine ⟨[], .nil, ?_⟩
      intro name first isValue
      rw [List.append_nil]
      exact .last name isValue
  | cons member others =>
      obtain ⟨nextName, value⟩ := member
      obtain ⟨content, named⟩ := exists_spells_quote nextName
      obtain ⟨next, spelledNext, nextIsValue⟩ := exists_isValue_print depth value
      obtain ⟨later, spelledLater, isMembers⟩ := exists_isMembers_printMembers depth others
      have whole := (Spells.token .comma rfl).append
        ((Spells.lineStart depth).append ((named.append spelledNext).append spelledLater))
      refine ⟨_, by simpa [printMembers, Token.source] using whole, ?_⟩
      intro name first isValue
      exact .cons name isValue (isMembers content next nextIsValue)

end

/-- Every printed value is valid JSON, also with blanks behind it. -/
theorem isValid_toText_append
    (value : Json)
    {behind : Text}
    (areBlanks : ∀ character ∈ behind, character ∈ [' ', '\t', '\n', '\r']) :
    IsValid (value.toText ++ behind) := by
  obtain ⟨tokens, spelled, isValue⟩ := exists_isValue_print 0 value
  obtain ⟨all, isText, without⟩ := spelled.append (.blanks areBlanks)
  refine ⟨all, isText, ?_⟩
  rw [IsText, without, List.append_nil]
  exact isValue

end Json

end Guidebook
