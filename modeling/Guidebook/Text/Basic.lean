namespace Guidebook

/-!
# Text as characters

Readers work on the characters of a text in order.  This module holds the
blank characters, trimming, words, and the division of a text into lines.
-/

/-- A text being read: its characters in order. -/
abbrev Text := List Char

/-- A line of a text, without its line end. -/
abbrev Line := Text

/-- The characters with the Unicode property of being white space. -/
def isBlank (character : Char) : Bool :=
  let code := character.toNat
  (0x09 ≤ code && code ≤ 0x0D) || code == 0x20 || code == 0x85 || code == 0xA0 ||
    code == 0x1680 || (0x2000 ≤ code && code ≤ 0x200A) || code == 0x2028 || code == 0x2029 ||
    code == 0x202F || code == 0x205F || code == 0x3000

/-- Puts a value in front of the first of several groups. -/
def consFirst (value : α) : List (List α) → List (List α)
  | [] => [[value]]
  | first :: others => (value :: first) :: others

/-- A stretch of a text, from one place up to another one. -/
structure Extent where
  start : Nat
  stop : Nat
  deriving Repr, DecidableEq

/-- Whether a stretch has no character. -/
def Extent.isEmpty (extent : Extent) : Bool :=
  extent.stop ≤ extent.start

namespace Text

/-- The part of a text from one place up to another one. -/
def slice (text : Text) (start stop : Nat) : Text :=
  (text.drop start).take (stop - start)

/-- A number in decimal digits. -/
def decimal (value : Nat) : Text :=
  Nat.toDigits 10 value

/-- Drops the blanks in front. -/
def trimStart (text : Text) : Text :=
  text.dropWhile isBlank

/-- Drops the blanks at the end. -/
def trimEnd (text : Text) : Text :=
  (text.reverse.dropWhile isBlank).reverse

/-- Drops the blanks at both ends. -/
def trim (text : Text) : Text :=
  text.trimStart.trimEnd

/-- Whether there is nothing but blanks. -/
def isBlankLine (text : Text) : Bool :=
  text.all isBlank

/-- The number of blanks in front. -/
def indent (text : Text) : Nat :=
  (text.takeWhile isBlank).length

/-- The first run of non-blank characters, when there is one. -/
def firstWord? (text : Text) : Option Text :=
  match text.trimStart with
  | [] => none
  | first :: rest => some (first :: rest.takeWhile (!isBlank ·))

/-- The number of equal characters that the text starts with. -/
def runLength (marker : Char) : Text → Nat
  | [] => 0
  | character :: rest => if character = marker then runLength marker rest + 1 else 0

/-- Splits around the first place where a marker stands. -/
def splitAround? (text marker : Text) : Option (Text × Text) :=
  match text with
  | [] => none
  | character :: rest =>
      if marker.isPrefixOf (character :: rest) then
        some ([], (character :: rest).drop marker.length)
      else
        (splitAround? rest marker).map fun (before, after) => (character :: before, after)

/--
The lines of a text.  A line ends at a line feed, and a carriage return right
before that line feed belongs to the line end; nothing after the last line feed
is no line.
-/
def lines : Text → List Line
  | [] => []
  | '\r' :: '\n' :: rest => [] :: lines rest
  | '\n' :: rest => [] :: lines rest
  | character :: rest => consFirst character (lines rest)

end Text

end Guidebook
