import Guidebook.Text.Basic
import Mathlib.Data.List.Basic

namespace Guidebook

/-!
# Texts as bytes

A text is stored as the bytes of its characters in UTF-8.  A place between two bytes is a
boundary when it lies between two characters; only such places can a text be divided at.
A character below 128 is a single byte, which occurs in no other character.
-/

/-- The byte that stands for a character below 128. -/
def byte (character : Char) : UInt8 :=
  UInt8.ofNat character.toNat

namespace Text

/-- The bytes of a text. -/
def bytes (text : Text) : List UInt8 :=
  text.flatMap String.utf8EncodeChar

/-- The number of bytes of a text. -/
def byteLength (text : Text) : Nat :=
  text.bytes.length

/-- Whether a place between two bytes of a text lies between two characters. -/
def IsBoundary (text : Text) (place : Nat) : Prop :=
  String.Pos.Raw.IsValid (String.ofList text) ⟨place⟩

/-- Divides a text behind so many bytes, when a character ends there. -/
def splitAtByte? (place : Nat) : Text → Option (Text × Text)
  | [] => if place = 0 then some ([], []) else none
  | character :: rest =>
      if place = 0 then some ([], character :: rest)
      else if character.utf8Size ≤ place then
        (splitAtByte? (place - character.utf8Size) rest).map fun (front, behind) =>
          (character :: front, behind)
      else none

/-- The text between two places, when it starts and ends with whole characters. -/
def byteSlice? (text : Text) (start stop : Nat) : Option Text := do
  let (front, _) ← splitAtByte? stop text
  let (_, middle) ← splitAtByte? start front
  some middle

/-! ## The bytes of a character -/

/-- An ASCII character is encoded as a single byte. -/
theorem utf8EncodeChar_of_ascii
    {character : Char}
    (ascii : character.toNat < 128) :
    String.utf8EncodeChar character = [byte character] := by
  have small : character.val.toNat ≤ 0x7f :=
    Nat.le_of_lt_succ ascii
  rw [String.utf8EncodeChar, if_pos small]
  rfl

/-- An ASCII character has the size of one byte. -/
theorem utf8Size_of_ascii
    {character : Char}
    (ascii : character.toNat < 128) :
    character.utf8Size = 1 := by
  rw [← String.length_utf8EncodeChar, utf8EncodeChar_of_ascii ascii]
  rfl

/-- A byte with a large base is large. -/
theorem large_toNat_ofNat
    {value most base : Nat}
    (positive : 0 < most)
    (large : 128 ≤ base)
    (fits : most + base ≤ 256) :
    128 ≤ (UInt8.ofNat (value % most + base)).toNat := by
  have below := Nat.mod_lt value positive
  have inByte : value % most + base < 2 ^ 8 := by
    omega
  rw [UInt8.toNat_ofNat', Nat.mod_eq_of_lt inByte]
  omega

/-- All bytes of a character from 128 on are from 128 on themselves. -/
theorem le_of_mem_utf8EncodeChar
    {character : Char}
    (large : 128 ≤ character.toNat)
    {code : UInt8}
    (member : code ∈ String.utf8EncodeChar character) :
    128 ≤ code.toNat := by
  have notSmall : ¬ character.val.toNat ≤ 0x7f :=
    Nat.not_le_of_lt large
  rw [String.utf8EncodeChar, if_neg notSmall] at member
  split at member
  · simp only [List.mem_cons, List.not_mem_nil, or_false] at member
    rcases member with rfl | rfl
    all_goals exact large_toNat_ofNat (by decide) (by decide) (by decide)
  · split at member
    · simp only [List.mem_cons, List.not_mem_nil, or_false] at member
      rcases member with rfl | rfl | rfl
      all_goals exact large_toNat_ofNat (by decide) (by decide) (by decide)
    · simp only [List.mem_cons, List.not_mem_nil, or_false] at member
      rcases member with rfl | rfl | rfl | rfl
      all_goals exact large_toNat_ofNat (by decide) (by decide) (by decide)

/-- The byte of an ASCII character is in no encoding but that of the character itself. -/
theorem byte_mem_utf8EncodeChar_iff
    {character other : Char}
    (ascii : character.toNat < 128) :
    byte character ∈ String.utf8EncodeChar other ↔ other = character := by
  have sameCode : (byte character).toNat = character.toNat :=
    Nat.mod_eq_of_lt (Nat.lt_trans ascii (by decide))
  constructor
  · intro member
    by_cases otherAscii : other.toNat < 128
    · rw [utf8EncodeChar_of_ascii otherAscii, List.mem_singleton] at member
      have otherCode : (byte other).toNat = other.toNat :=
        Nat.mod_eq_of_lt (Nat.lt_trans otherAscii (by decide))
      refine Char.toNat_inj.mp ?_
      rw [← sameCode, member, otherCode]
    · have large := le_of_mem_utf8EncodeChar (Nat.le_of_not_lt otherAscii) member
      omega
  · rintro rfl
    rw [utf8EncodeChar_of_ascii ascii]
    exact List.mem_singleton_self _

/-! ## Lengths -/

@[simp] theorem bytes_append
    (front behind : Text) :
    bytes (front ++ behind) = front.bytes ++ behind.bytes :=
  List.flatMap_append

@[simp] theorem byteLength_nil :
    byteLength [] = 0 :=
  rfl

@[simp] theorem byteLength_append
    (front behind : Text) :
    byteLength (front ++ behind) = front.byteLength + behind.byteLength := by
  rw [byteLength, bytes_append, List.length_append]
  rfl

@[simp] theorem byteLength_cons
    (character : Char)
    (rest : Text) :
    byteLength (character :: rest) = character.utf8Size + byteLength rest := by
  simp [byteLength, bytes]

/-- A text is as long backwards. -/
@[simp] theorem byteLength_reverse
    (text : Text) :
    byteLength text.reverse = text.byteLength := by
  induction text with
  | nil =>
      rfl
  | cons character rest inductionHypothesis =>
      rw [List.reverse_cons, byteLength_append, inductionHypothesis, byteLength_cons,
        byteLength_cons, byteLength_nil, Nat.add_zero, Nat.add_comm]

/-- A character that is repeated takes its size as often. -/
@[simp] theorem byteLength_replicate
    (count : Nat)
    (character : Char) :
    byteLength (List.replicate count character) = count * character.utf8Size := by
  induction count with
  | zero =>
      rw [Nat.zero_mul]
      rfl
  | succ count inductionHypothesis =>
      rw [List.replicate_succ, byteLength_cons, inductionHypothesis, Nat.succ_mul, Nat.add_comm]

/-! ## Places between two characters -/

/-- Whether a place lies right before the last characters of a text, which are these. -/
def IsAhead (text : Text) (place : Nat) (ahead : Text) : Prop :=
  ∃ front, text = front ++ ahead ∧ place = front.byteLength

/-- A place between characters is one with a text ahead. -/
theorem isBoundary_iff
    {text : Text}
    {place : Nat} :
    text.IsBoundary place ↔ ∃ ahead, text.IsAhead place ahead := by
  have sameLength (front : String) : front.rawEndPos = ⟨byteLength front.toList⟩ := by
    rw [String.Pos.Raw.ext_iff, String.byteIdx_rawEndPos, ← String.size_toByteArray,
      ← String.ofList_toList (s := front), String.toByteArray_ofList, List.utf8Encode,
      List.size_toByteArray, String.toList_ofList]
    rfl
  rw [IsBoundary, String.Pos.Raw.isValid_iff_exists_append]
  constructor
  · rintro ⟨front, ahead, shape, isPlace⟩
    refine ⟨ahead.toList, front.toList, ?_, ?_⟩
    · rw [← String.toList_append, ← shape, String.toList_ofList]
    · rw [sameLength] at isPlace
      cases isPlace
      rfl
  · rintro ⟨ahead, front, rfl, rfl⟩
    refine ⟨String.ofList front, String.ofList ahead, by simp, ?_⟩
    rw [sameLength, String.toList_ofList]

/-- At the start the whole text is ahead. -/
theorem isAhead_start
    (text : Text) :
    text.IsAhead 0 text :=
  ⟨[], rfl, rfl⟩

namespace IsAhead

variable {text ahead middle behind : Text} {place : Nat}

/-- A place and the length of the text ahead make the length of the text. -/
theorem byteLength_eq
    (here : text.IsAhead place ahead) :
    text.byteLength = place + ahead.byteLength := by
  obtain ⟨front, rfl, rfl⟩ := here
  exact byteLength_append front ahead

/-- A place with a character ahead lies inside the text. -/
theorem lt_byteLength
    {character : Char}
    {rest : Text}
    (here : text.IsAhead place (character :: rest)) :
    place < text.byteLength := by
  have positive := character.utf8Size_pos
  rw [here.byteLength_eq, byteLength_cons]
  omega

/-- What is behind the next characters is ahead of the place behind them. -/
theorem advance
    {stop : Nat}
    (here : text.IsAhead place (middle ++ behind))
    (reach : stop = place + middle.byteLength) :
    text.IsAhead stop behind := by
  obtain ⟨front, rfl, rfl⟩ := here
  refine ⟨front ++ middle, (List.append_assoc _ _ _).symm, ?_⟩
  rw [reach, byteLength_append]

/-- Behind a character the rest of the text is ahead. -/
theorem next
    {character : Char}
    {rest : Text}
    (here : text.IsAhead place (character :: rest)) :
    text.IsAhead (place + character.utf8Size) rest := by
  have single : text.IsAhead place ([character] ++ rest) :=
    here
  exact single.advance (by simp)

/-- Behind the opener of a stretch its inside is ahead. -/
theorem enclosed
    {front rest : Text}
    {start : Nat}
    (here : text.IsAhead place (front ++ middle ++ behind ++ rest))
    (reach : start = place + front.byteLength) :
    text.IsAhead start (middle ++ (behind ++ rest)) := by
  rw [List.append_assoc, List.append_assoc] at here
  exact here.advance reach

/-- Between two places that are in order there is a text, which is ahead of the first. -/
theorem exists_middle
    {stop : Nat}
    (here : text.IsAhead place ahead)
    (there : text.IsAhead stop behind)
    (inOrder : place ≤ stop) :
    ∃ middle, ahead = middle ++ behind ∧ stop = place + middle.byteLength := by
  obtain ⟨front, shape, rfl⟩ := here
  obtain ⟨frontThere, rfl, rfl⟩ := there
  obtain ⟨middle, rfl, sameAhead⟩ | ⟨middle, rfl, rfl⟩ := List.append_eq_append_iff.mp shape
  · cases middle with
    | nil =>
        exact ⟨[], by simpa using sameAhead.symm, by simp⟩
    | cons character rest =>
        -- The second place would lie before the first by this character at least.
        have positive := character.utf8Size_pos
        rw [byteLength_append, byteLength_cons] at inOrder
        omega
  · exact ⟨middle, rfl, byteLength_append front middle⟩

/-- The bytes from a place on are those of the text ahead. -/
theorem drop_bytes
    (here : text.IsAhead place ahead) :
    text.bytes.drop place = ahead.bytes := by
  obtain ⟨front, rfl, rfl⟩ := here
  rw [bytes_append, byteLength, List.drop_left]

/-- A byte ahead of a place is a byte of the text ahead. -/
theorem getElem?_bytes
    (here : text.IsAhead place ahead)
    (further : Nat) :
    text.bytes[place + further]? = ahead.bytes[further]? := by
  rw [← List.getElem?_drop, here.drop_bytes]

/-- Whether the byte at a place is that of a character below 128 tells the character there. -/
theorem getElem?_eq_byte_iff
    {marker : Char}
    (ascii : marker.toNat < 128)
    (here : text.IsAhead place ahead) :
    text.bytes[place]? = some (byte marker) ↔ ahead.head? = some marker := by
  have sameByte := here.getElem?_bytes 0
  rw [Nat.add_zero] at sameByte
  rw [sameByte]
  cases ahead with
  | nil =>
      exact iff_of_false nofun nofun
  | cons character rest =>
      have nonempty : 0 < (String.utf8EncodeChar character).length := by
        rw [String.length_utf8EncodeChar]
        exact character.utf8Size_pos
      have firstByte : (bytes (character :: rest))[0]? =
          some (String.utf8EncodeChar character)[0] := by
        rw [bytes, List.flatMap_cons, List.getElem?_append_left nonempty,
          List.getElem?_eq_getElem]
      rw [firstByte, List.head?_cons, Option.some_inj, Option.some_inj]
      constructor
      · intro sameCode
        exact (byte_mem_utf8EncodeChar_iff ascii).mp (sameCode ▸ List.getElem_mem nonempty)
      · rintro rfl
        simp [utf8EncodeChar_of_ascii ascii]

/-- What stays the same from each byte of a character to the next stays so behind it. -/
theorem eq_behind_character
    {result : Nat → α}
    {character : Char}
    {rest : Text}
    (here : text.IsAhead place (character :: rest))
    (stays :
      ∀ inner code,
        text.bytes[inner]? = some code →
        code ∈ String.utf8EncodeChar character →
        result inner = result (inner + 1)) :
    result place = result (place + character.utf8Size) := by
  have upTo : ∀ further ≤ character.utf8Size, result place = result (place + further) := by
    intro further inside
    induction further with
    | zero =>
        rfl
    | succ further inductionHypothesis =>
        have inCharacter : further < (String.utf8EncodeChar character).length := by
          rwa [String.length_utf8EncodeChar]
        have isCode : text.bytes[place + further]? =
            some (String.utf8EncodeChar character)[further] := by
          rw [here.getElem?_bytes, bytes, List.flatMap_cons,
            List.getElem?_append_left inCharacter, List.getElem?_eq_getElem]
        rw [inductionHypothesis (Nat.le_of_succ_le inside),
          stays _ _ isCode (List.getElem_mem inCharacter)]
        rfl
  exact upTo _ (Nat.le_refl _)

end IsAhead

/-! ## Parts of a text -/

/-- A text is split at a place when its front takes just so many bytes. -/
theorem splitAtByte?_eq_some_iff
    {text front ahead : Text}
    {place : Nat} :
    splitAtByte? place text = some (front, ahead) ↔
      text = front ++ ahead ∧ place = front.byteLength := by
  constructor
  · intro found
    fun_induction splitAtByte? place text generalizing front with
    | case1 | case3 =>
        cases found
        exact ⟨rfl, rfl⟩
    | case2 | case5 =>
        cases found
    | case4 place character rest _ fits inductionHypothesis =>
        obtain ⟨⟨front, behind⟩, foundRest, same⟩ := Option.map_eq_some_iff.mp found
        cases same
        obtain ⟨rfl, reach⟩ := inductionHypothesis foundRest
        rw [byteLength_cons, ← reach]
        exact ⟨rfl, by omega⟩
  · rintro ⟨rfl, rfl⟩
    induction front with
    | nil =>
        cases ahead with
        | nil | cons =>
            rfl
    | cons character rest inductionHypothesis =>
        have positive := character.utf8Size_pos
        rw [byteLength_cons, List.cons_append, splitAtByte?, if_neg (by omega),
          if_pos (Nat.le_add_right _ _), Nat.add_sub_cancel_left, inductionHypothesis]
        rfl

/-- A text is what lies between two places when it is ahead of one and ends at the other. -/
theorem byteSlice?_eq_some_iff
    {text middle : Text}
    {start stop : Nat} :
    text.byteSlice? start stop = some middle ↔
      ∃ behind, text.IsAhead start (middle ++ behind) ∧ stop = start + middle.byteLength := by
  rw [byteSlice?]
  simp only [Option.bind_eq_bind, Option.bind_eq_some_iff, Prod.exists, splitAtByte?_eq_some_iff,
    Option.some_inj]
  constructor
  · rintro ⟨_, behind, ⟨rfl, rfl⟩, front, _, ⟨rfl, rfl⟩, rfl⟩
    exact ⟨behind, ⟨front, List.append_assoc _ _ _, rfl⟩, byteLength_append _ _⟩
  · rintro ⟨behind, ⟨front, rfl, rfl⟩, rfl⟩
    exact ⟨front ++ middle, behind, ⟨(List.append_assoc _ _ _).symm, (byteLength_append _ _).symm⟩,
      front, middle, ⟨rfl, rfl⟩, rfl⟩

/-- What lies between a place and the end is the text ahead. -/
theorem IsAhead.byteSlice?_eq
    {text ahead : Text}
    {place : Nat}
    (here : text.IsAhead place ahead) :
    text.byteSlice? place text.byteLength = some ahead := by
  rw [here.byteLength_eq]
  rw [← List.append_nil ahead] at here
  exact byteSlice?_eq_some_iff.mpr ⟨[], here, rfl⟩

/-- There is a text between two places just if both are between two characters and in order. -/
theorem isSome_byteSlice?_iff
    {text : Text}
    {start stop : Nat} :
    (text.byteSlice? start stop).isSome ↔
      start ≤ stop ∧ stop ≤ text.byteLength ∧ text.IsBoundary start ∧ text.IsBoundary stop := by
  rw [Option.isSome_iff_exists]
  constructor
  · rintro ⟨middle, isText⟩
    obtain ⟨behind, here, rfl⟩ := byteSlice?_eq_some_iff.mp isText
    have there := here.advance rfl
    refine ⟨Nat.le_add_right _ _, ?_, isBoundary_iff.mpr ⟨_, here⟩, isBoundary_iff.mpr ⟨_, there⟩⟩
    rw [there.byteLength_eq]
    exact Nat.le_add_right _ _
  · rintro ⟨inOrder, -, startsWhole, stopsWhole⟩
    obtain ⟨ahead, here⟩ := isBoundary_iff.mp startsWhole
    obtain ⟨behind, there⟩ := isBoundary_iff.mp stopsWhole
    obtain ⟨middle, rfl, reach⟩ := here.exists_middle there inOrder
    exact ⟨middle, byteSlice?_eq_some_iff.mpr ⟨behind, here, reach⟩⟩

example : byteSlice? "é*".toList 1 3 = none := by
  decide

end Text

end Guidebook
