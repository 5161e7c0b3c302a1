import Guidebook.Json.Printing
import Guidebook.Proofs.Block.Written
import Guidebook.Proofs.Text.Decimal

namespace Guidebook

/-!
# Reading JSON

A reader of JSON with whole numbers that are not negative.  It passes over blanks
between tokens, and takes a value off the start of a text.  A value that was printed
is read back with anything behind it that does not go on with its last number.
-/

namespace Json

/-- The characters that may stand between tokens. -/
def blanks : List Char :=
  [' ', '\t', '\n', '\r']

/-- Drops the blanks in front. -/
def skipBlanks (text : Text) : Text :=
  text.dropWhile blanks.contains

/-- The value of a hexadecimal digit. -/
def hexValue? (digit : Char) : Option Nat :=
  "0123456789abcdef".toList.idxOf? digit.toLower

/-- The character whose code some hexadecimal digits spell. -/
def ofHexDigits? (digits : Text) : Option Char := do
  let values ← digits.mapM hexValue?
  let code := values.foldl (fun code value => code * 16 + value) 0
  if code.isValidChar then some (Char.ofNat code) else none

/-- The character that is meant by a mark behind a backslash. -/
def unescape? (mark : Char) : Option Char :=
  if mark = '"' ∨ mark = '\\' ∨ mark = '/' then some mark
  else if mark = 'b' then some '\x08'
  else if mark = 't' then some '\t'
  else if mark = 'n' then some '\n'
  else if mark = 'f' then some '\x0c'
  else if mark = 'r' then some '\r'
  else none

/-- The content of a string whose opening quote has been read, and what is behind it. -/
def contentRest? : Text → Option (Text × Text)
  | [] => none
  | '"' :: rest => some ([], rest)
  | '\\' :: 'u' :: first :: second :: third :: fourth :: rest => do
      let character ← ofHexDigits? [first, second, third, fourth]
      let (content, behind) ← contentRest? rest
      return (character :: content, behind)
  | '\\' :: mark :: rest => do
      let character ← unescape? mark
      let (content, behind) ← contentRest? rest
      return (character :: content, behind)
  | character :: rest => do
      let (content, behind) ← contentRest? rest
      if character.toNat < 0x20 then none else some (character :: content, behind)

mutual

/-- Takes a value off the start of a text, by at most so many steps. -/
def read? : Nat → Text → Option (Json × Text)
  | 0, _ => none
  | steps + 1, text =>
      match skipBlanks text with
      | 'n' :: 'u' :: 'l' :: 'l' :: rest => some (.null, rest)
      | 't' :: 'r' :: 'u' :: 'e' :: rest => some (.boolean true, rest)
      | 'f' :: 'a' :: 'l' :: 's' :: 'e' :: rest => some (.boolean false, rest)
      | '"' :: rest =>
          (contentRest? rest).map fun (content, behind) => (.string (String.ofList content), behind)
      | '[' :: rest =>
          match skipBlanks rest with
          | ']' :: behind => some (.array [], behind)
          | start => do
              let (item, rest) ← read? steps start
              let (items, behind) ← readItems? steps rest
              return (.array (item :: items), behind)
      | '\x7b' :: rest =>
          match skipBlanks rest with
          | '\x7d' :: behind => some (.object [], behind)
          | start => do
              let (member, rest) ← readMember? steps start
              let (members, behind) ← readMembers? steps rest
              return (.object (member :: members), behind)
      | start =>
          let digits := start.takeWhile Char.isDigit
          if digits.isEmpty then none
          else some (.number (Nat.ofDigitChars 10 digits 0), start.dropWhile Char.isDigit)

/-- Takes the items behind the first one of an array, and its closing bracket. -/
def readItems? : Nat → Text → Option (List Json × Text)
  | 0, _ => none
  | steps + 1, text =>
      match skipBlanks text with
      | ']' :: behind => some ([], behind)
      | ',' :: start => do
          let (item, rest) ← read? steps start
          let (items, behind) ← readItems? steps rest
          return (item :: items, behind)
      | _ => none

/-- Takes a member of an object. -/
def readMember? : Nat → Text → Option ((String × Json) × Text)
  | 0, _ => none
  | steps + 1, text =>
      match skipBlanks text with
      | '"' :: start => do
          let (name, rest) ← contentRest? start
          match skipBlanks rest with
          | ':' :: start =>
              let (value, behind) ← read? steps start
              return ((String.ofList name, value), behind)
          | _ => none
      | _ => none

/-- Takes the members behind the first one of an object, and its closing brace. -/
def readMembers? : Nat → Text → Option (List (String × Json) × Text)
  | 0, _ => none
  | steps + 1, text =>
      match skipBlanks text with
      | '\x7d' :: behind => some ([], behind)
      | ',' :: start => do
          let (member, rest) ← readMember? steps start
          let (members, behind) ← readMembers? steps rest
          return (member :: members, behind)
      | _ => none

end

/-- The value that a text spells, with blanks around it. -/
def ofText? (text : Text) : Option Json := do
  let (value, rest) ← read? (text.length + 1) text
  if (skipBlanks rest).isEmpty then some value else none

/-! Strings. -/

/-- A digit of an escape is read as its value. -/
theorem hexValue?_hexDigit :
    ∀ value < 16, hexValue? (hexDigit value) = some value := by
  decide

/-- A control character is found again by its code. -/
theorem ofHexDigits?_code
    {character : Char}
    (isControl : character.toNat < 0x20) :
    ofHexDigits?
        ['0', '0', hexDigit (character.toNat / 16), hexDigit (character.toNat % 16)] =
      some character := by
  have high := hexValue?_hexDigit (character.toNat / 16) (by omega)
  have low := hexValue?_hexDigit (character.toNat % 16) (by omega)
  have zero : hexValue? '0' = some 0 := by decide
  have code : character.toNat / 16 * 16 + character.toNat % 16 = character.toNat := by omega
  have isValid : character.toNat.isValidChar := .inl (by omega)
  simp [ofHexDigits?, List.mapM_cons, zero, high, low, code, isValid]

/-- A printed character is read as what it was. -/
theorem contentRest?_quoteCharacter_append
    (character : Char)
    {rest content behind : Text}
    (found : contentRest? rest = some (content, behind)) :
    contentRest? (quoteCharacter character ++ rest) = some (character :: content, behind) := by
  fun_cases quoteCharacter character with
  | case8 _ _ _ _ _ _ _ isControl =>
      have code := ofHexDigits?_code isControl
      simp [contentRest?, code, found]
  | case9 notQuote notBackslash _ _ _ _ _ notControl =>
      rw [List.singleton_append, contentRest?]
      · simp [found, notControl]
      · exact notQuote
      · rintro _ _ _ _ _ isBackslash
        exact (notBackslash isBackslash).elim
      · rintro _ _ isBackslash
        exact (notBackslash isBackslash).elim
  | _ =>
      simp [contentRest?, unescape?, *]

/-- A printed string ends where its content ends, whatever stands behind it. -/
theorem contentRest?_append
    (text rest : Text) :
    contentRest? (text.flatMap quoteCharacter ++ '"' :: rest) = some (text, rest) := by
  induction text with
  | nil =>
      simp [contentRest?]
  | cons character later inductionHypothesis =>
      rw [List.flatMap_cons, List.append_assoc]
      exact contentRest?_quoteCharacter_append character inductionHypothesis

/-! Blanks. -/

/-- The start of a line is skipped with the blanks. -/
theorem skipBlanks_lineStart_append
    (depth : Nat)
    (text : Text) :
    skipBlanks (lineStart depth ++ text) = skipBlanks text := by
  rw [skipBlanks, skipBlanks, List.dropWhile_append_of_pos]
  intro character member
  rcases List.mem_cons.mp member with rfl | isSpace
  · decide
  · rw [List.eq_of_mem_replicate isSpace]
    decide

/-! Values. -/

/-- A printed value starts with a character that is no blank and closes nothing. -/
theorem exists_print_eq_cons
    (depth : Nat)
    (value : Json) :
    ∃ first rest, value.print depth = first :: rest ∧ first ∉ blanks ∧ first ≠ ']' := by
  cases value with
  | null =>
      exact ⟨'n', _, rfl, by decide, by decide⟩
  | boolean value =>
      cases value with
      | true =>
          exact ⟨'t', _, rfl, by decide, by decide⟩
      | false =>
          exact ⟨'f', _, rfl, by decide, by decide⟩
  | number value =>
      obtain ⟨digit, others, shape, isDigit⟩ := Text.exists_decimal_eq_cons value
      refine ⟨digit, others, by rw [print, shape], ?_, ?_⟩
      · simp only [blanks, List.mem_cons, List.not_mem_nil, or_false]
        rintro (rfl | rfl | rfl | rfl) <;> cases isDigit
      · rintro rfl
        cases isDigit
  | string text =>
      exact ⟨'"', _, rfl, by decide, by decide⟩
  | array items =>
      cases items with
      | nil =>
          exact ⟨'[', _, rfl, by decide, by decide⟩
      | cons item rest =>
          exact ⟨'[', _, rfl, by decide, by decide⟩
  | object members =>
      cases members with
      | nil =>
          exact ⟨'\x7b', _, rfl, by decide, by decide⟩
      | cons member rest =>
          exact ⟨'\x7b', _, rfl, by decide, by decide⟩

/-- No value is printed with a blank in front. -/
theorem skipBlanks_print_append
    (depth : Nat)
    (value : Json)
    (rest : Text) :
    skipBlanks (value.print depth ++ rest) = value.print depth ++ rest := by
  obtain ⟨first, others, shape, notBlank, -⟩ := exists_print_eq_cons depth value
  rw [shape, List.cons_append, skipBlanks, List.dropWhile_cons_of_neg]
  simpa using notBlank

/-- What stands behind a number does not go on with it. -/
def EndsNumber (rest : Text) : Prop :=
  ∀ first ∈ rest.head?, ¬ first.isDigit

/-- A number ends in front of the items behind it. -/
theorem endsNumber_printItems
    (depth outer : Nat)
    (items : List Json)
    (rest : Text) :
    EndsNumber (printItems depth items ++ (lineStart outer ++ rest)) := by
  cases items <;> simp [EndsNumber, printItems, lineStart]

/-- A number ends in front of the members behind it. -/
theorem endsNumber_printMembers
    (depth outer : Nat)
    (members : List (String × Json))
    (rest : Text) :
    EndsNumber (printMembers depth members ++ (lineStart outer ++ rest)) := by
  cases members <;> simp [EndsNumber, printMembers, lineStart]

/-- A number ends where its digits end. -/
theorem read?_decimal
    {text rest : Text}
    {value : Nat}
    (opens : skipBlanks text = Text.decimal value ++ rest)
    (ends : EndsNumber rest)
    (steps : Nat) :
    read? (steps + 1) text = some (.number value, rest) := by
  obtain ⟨whole, behind⟩ := Text.decimal_append_of_ends value ends
  have number := Text.ofDigitChars_decimal value
  obtain ⟨digit, others, shape, isDigit⟩ := Text.exists_decimal_eq_cons value
  have hasDigits : (Text.decimal value).isEmpty = false := by
    rw [shape, List.isEmpty_cons]
  rw [read?, opens]
  split
  iterate 6
    next same =>
      rw [shape] at same
      cases (List.cons.inj same).1
      cases isDigit
  rw [whole, behind]
  simp only [number, hasDigits, Bool.false_eq_true, ↓reduceIte]

/-- What stands between a name and its value. -/
private theorem colonSpace :
    ": ".toList = [':', ' '] :=
  rfl

mutual

/-- A printed value is read back with what stands behind it. -/
theorem read?_print_append
    {depth steps : Nat}
    {value : Json}
    {text rest : Text}
    (opens : skipBlanks text = value.print depth ++ rest)
    (ends : EndsNumber rest)
    (enough : (value.print depth).length < steps) :
    read? steps text = some (value, rest) := by
  obtain ⟨steps, rfl⟩ := Nat.exists_eq_add_one_of_ne_zero (Nat.ne_zero_of_lt enough)
  cases value with
  | null =>
      rw [read?, opens]
      rfl
  | boolean value =>
      cases value <;> (rw [read?, opens]; rfl)
  | number value =>
      exact read?_decimal opens ends steps
  | string text =>
      rw [read?, opens, print, quote, List.cons_append, List.cons_append, List.append_assoc,
        List.singleton_append]
      simp [contentRest?_append]
  | array items =>
      cases items with
      | nil =>
          rw [read?, opens, print]
          rfl
      | cons item others =>
          rw [print] at opens enough
          simp only [List.length_cons, List.length_append] at enough
          have first :
              read? steps (item.print (depth + 1) ++
                  (printItems (depth + 1) others ++ (lineStart depth ++ ']' :: rest))) =
                some (item, printItems (depth + 1) others ++ (lineStart depth ++ ']' :: rest)) :=
            read?_print_append (skipBlanks_print_append _ _ _) (endsNumber_printItems _ _ _ _)
              (by omega)
          have later :
              readItems? steps
                  (printItems (depth + 1) others ++ (lineStart depth ++ ']' :: rest)) =
                some (others, rest) :=
            readItems?_printItems_append (by omega)
          obtain ⟨character, more, shape, -, notClosing⟩ := exists_print_eq_cons (depth + 1) item
          simp only [List.cons_append, List.append_assoc, List.nil_append] at opens
          rw [read?, opens]
          simp only
          rw [skipBlanks_lineStart_append, skipBlanks_print_append]
          split
          · next same =>
              rw [shape] at same
              exact (notClosing (List.cons.inj same).1).elim
          · simp [first, later]
  | object members =>
      cases members with
      | nil =>
          rw [read?, opens, print]
          rfl
      | cons member others =>
          obtain ⟨name, value⟩ := member
          rw [print, colonSpace] at opens enough
          simp only [List.length_cons, List.length_append] at enough
          have first :
              readMember? steps (quote name ++ (':' :: ' ' :: (value.print (depth + 1) ++
                  (printMembers (depth + 1) others ++ (lineStart depth ++ '\x7d' :: rest))))) =
                some ((name, value),
                  printMembers (depth + 1) others ++ (lineStart depth ++ '\x7d' :: rest)) :=
            readMember?_append rfl (endsNumber_printMembers _ _ _ _) (by omega)
          have later :
              readMembers? steps
                  (printMembers (depth + 1) others ++ (lineStart depth ++ '\x7d' :: rest)) =
                some (others, rest) :=
            readMembers?_printMembers_append (by omega)
          have name? (behind : Text) : skipBlanks (quote name ++ behind) = quote name ++ behind :=
            rfl
          simp only [List.cons_append, List.append_assoc, List.nil_append] at opens
          rw [read?, opens]
          simp only
          rw [skipBlanks_lineStart_append, name?]
          split
          · next same =>
              cases (List.cons.inj same).1
          · simp [first, later]
termination_by steps

/-- Printed items are read back up to the bracket that closes their array. -/
theorem readItems?_printItems_append
    {depth outer steps : Nat}
    {items : List Json}
    {rest : Text}
    (enough : (printItems depth items).length < steps) :
    readItems? steps (printItems depth items ++ (lineStart outer ++ ']' :: rest)) =
      some (items, rest) := by
  obtain ⟨steps, rfl⟩ := Nat.exists_eq_add_one_of_ne_zero (Nat.ne_zero_of_lt enough)
  cases items with
  | nil =>
      rw [readItems?, printItems, List.nil_append, skipBlanks_lineStart_append]
      rfl
  | cons item others =>
      rw [printItems] at enough ⊢
      simp only [List.length_cons, List.length_append] at enough
      have first :
          read? steps (lineStart depth ++ (item.print depth ++
              (printItems depth others ++ (lineStart outer ++ ']' :: rest)))) =
            some (item, printItems depth others ++ (lineStart outer ++ ']' :: rest)) :=
        read?_print_append
          (by rw [skipBlanks_lineStart_append, skipBlanks_print_append])
          (endsNumber_printItems _ _ _ _) (by omega)
      have later :
          readItems? steps (printItems depth others ++ (lineStart outer ++ ']' :: rest)) =
            some (others, rest) :=
        readItems?_printItems_append (by omega)
      have comma (behind : Text) : skipBlanks (',' :: behind) = ',' :: behind := rfl
      simp only [List.cons_append, List.append_assoc]
      rw [readItems?, comma]
      simp [first, later]
termination_by steps

/-- A printed member is read back with what stands behind it. -/
theorem readMember?_append
    {depth steps : Nat}
    {name : String}
    {value : Json}
    {text rest : Text}
    (opens :
      skipBlanks text = quote name ++ (':' :: ' ' :: (value.print depth ++ rest)))
    (ends : EndsNumber rest)
    (enough : (value.print depth).length + 1 < steps) :
    readMember? steps text = some ((name, value), rest) := by
  obtain ⟨steps, rfl⟩ := Nat.exists_eq_add_one_of_ne_zero (Nat.ne_zero_of_lt enough)
  have found :
      read? steps (' ' :: (value.print depth ++ rest)) = some (value, rest) :=
    read?_print_append (skipBlanks_print_append _ _ _) ends (by omega)
  have named :
      contentRest? (name.toList.flatMap quoteCharacter ++
          '"' :: ':' :: ' ' :: (value.print depth ++ rest)) =
        some (name.toList, ':' :: ' ' :: (value.print depth ++ rest)) :=
    contentRest?_append _ _
  have colon (behind : Text) : skipBlanks (':' :: behind) = ':' :: behind := rfl
  rw [readMember?, opens, quote]
  simp [named, colon, found]
termination_by steps

/-- Printed members are read back up to the brace that closes their object. -/
theorem readMembers?_printMembers_append
    {depth outer steps : Nat}
    {members : List (String × Json)}
    {rest : Text}
    (enough : (printMembers depth members).length < steps) :
    readMembers? steps (printMembers depth members ++ (lineStart outer ++ '\x7d' :: rest)) =
      some (members, rest) := by
  obtain ⟨steps, rfl⟩ := Nat.exists_eq_add_one_of_ne_zero (Nat.ne_zero_of_lt enough)
  cases members with
  | nil =>
      rw [readMembers?, printMembers, List.nil_append, skipBlanks_lineStart_append]
      rfl
  | cons member others =>
      obtain ⟨name, value⟩ := member
      rw [printMembers, colonSpace] at enough ⊢
      simp only [List.length_cons, List.length_append] at enough
      have first :
          readMember? steps (lineStart depth ++ (quote name ++ (':' :: ' ' :: (value.print depth ++
              (printMembers depth others ++ (lineStart outer ++ '\x7d' :: rest)))))) =
            some ((name, value),
              printMembers depth others ++ (lineStart outer ++ '\x7d' :: rest)) :=
        readMember?_append (by rw [skipBlanks_lineStart_append]; rfl)
          (endsNumber_printMembers _ _ _ _) (by omega)
      have later :
          readMembers? steps (printMembers depth others ++ (lineStart outer ++ '\x7d' :: rest)) =
            some (others, rest) :=
        readMembers?_printMembers_append (by omega)
      have comma (behind : Text) : skipBlanks (',' :: behind) = ',' :: behind := rfl
      simp only [List.cons_append, List.append_assoc]
      rw [readMembers?, comma]
      simp [first, later]
termination_by steps

end

theorem not_isDigit_of_mem_blanks :
    ∀ character ∈ blanks, ¬ character.isDigit := by
  simp [blanks, Char.isDigit]

/-- A printed value is read back from its text, with blanks behind it. -/
theorem ofText?_toText_append
    (value : Json)
    {behind : Text}
    (areBlanks : ∀ character ∈ behind, character ∈ blanks) :
    ofText? (value.toText ++ behind) = some value := by
  have ends : EndsNumber behind := fun first isFirst =>
    not_isDigit_of_mem_blanks first (areBlanks first (List.mem_of_mem_head? isFirst))
  have enough : (value.print 0).length < (value.toText ++ behind).length + 1 := by
    rw [toText, List.length_append]
    omega
  have found : read? ((value.toText ++ behind).length + 1) (value.toText ++ behind) =
      some (value, behind) :=
    read?_print_append (skipBlanks_print_append _ _ _) ends enough
  have nothing : skipBlanks behind = [] :=
    List.dropWhile_eq_nil_iff.mpr fun character member => by simpa using areBlanks character member
  rw [ofText?, found]
  simp [nothing]

end Json

end Guidebook
