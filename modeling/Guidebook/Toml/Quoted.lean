import Guidebook.Toml.Reader

namespace Guidebook.Toml

/-!
# Strings of TOML

A string stands between quotes or apostrophes, one on each side or three.  Only
between quotes does a backslash escape what follows it, and only between three
of them may a string go on to the next line.
-/

/-- The value of a hexadecimal digit. -/
def hexDigit? (character : Char) : Option Nat :=
  if character.isDigit then some (character.toNat - '0'.toNat)
  else if 'a' ≤ character ∧ character ≤ 'f' then some (character.toNat - 'a'.toNat + 10)
  else if 'A' ≤ character ∧ character ≤ 'F' then some (character.toNat - 'A'.toNat + 10)
  else none

/-- The number that hexadecimal digits spell. -/
def hexNumber? (digits : Text) : Option Nat := do
  let values ← digits.mapM hexDigit?
  return values.foldl (fun number digit => number * 16 + digit) 0

/-- Takes a character by its code point in so many hexadecimal digits. -/
def codePoint (digits : Nat) : Reader Char := fun text =>
  if text.length < digits then none
  else
    match hexNumber? (text.take digits) with
    | none => none
    | some code => if code.isValidChar then some (Char.ofNat code, text.drop digits) else none

/-- Takes the character that an escape stands for, after its backslash. -/
def escaped : Reader Char
  | 'b' :: rest => some ('\x08', rest)
  | 't' :: rest => some ('\t', rest)
  | 'n' :: rest => some ('\n', rest)
  | 'f' :: rest => some ('\x0c', rest)
  | 'r' :: rest => some ('\r', rest)
  | 'e' :: rest => some ('\x1b', rest)
  | '"' :: rest => some ('"', rest)
  | '\\' :: rest => some ('\\', rest)
  | 'x' :: rest => codePoint 2 rest
  | 'u' :: rest => codePoint 4 rest
  | 'U' :: rest => codePoint 8 rest
  | _ => none

/-- Continues a string with an escape; the characters so far are kept backwards. -/
def escapeStep (passed : Text) (text : Text) : Step Text String :=
  match escaped text with
  | none => .fail
  | some (character, rest) => .more (character :: passed) rest

/-- One step through a string on one line that ends with a given quote. -/
def shortStep (quote : Char) (passed text : Text) : Step Text String :=
  match text with
  | [] => .fail
  | character :: rest =>
      if character = quote then .done (String.ofList passed.reverse) rest
      else if quote = '"' ∧ character = '\\' then escapeStep passed rest
      else if isPrintable character then .more (character :: passed) rest
      else .fail

/-- Skips spaces and line ends. -/
def skipBlankLines : Text → Text
  | [] => []
  | '\n' :: rest => skipBlankLines rest
  | '\r' :: '\n' :: rest => skipBlankLines rest
  | character :: rest => if isSpace character then skipBlankLines rest else character :: rest

/-- After a backslash at the end of a line: what follows the spaces and line ends there. -/
def continuedLine? (text : Text) : Option Text :=
  (lineEnd? (skipSpaces text)).map skipBlankLines

/--
One step through a string that ends with three of a given quote.  Up to two more
of them in front of these belong to the string.
-/
def longStep (quote : Char) (passed text : Text) : Step Text String :=
  match text with
  | [] => .fail
  | '\n' :: rest => .more ('\n' :: passed) rest
  | '\r' :: '\n' :: rest => .more ('\n' :: '\r' :: passed) rest
  | character :: rest =>
      if character = quote then
        let run := Text.runLength quote text
        if run < 3 then .more (quote :: passed) rest
        else
          let extra := min (run - 3) 2
          .done (String.ofList (passed.reverse ++ List.replicate extra quote))
            (text.drop (extra + 3))
      else if quote = '"' ∧ character = '\\' then
        match continuedLine? rest with
        | some after => .more passed after
        | none => escapeStep passed rest
      else if isPrintable character then .more (character :: passed) rest
      else .fail

/-- Takes a string on one line. -/
def shortString : Reader String
  | '"' :: rest => iterate (shortStep '"') [] rest
  | '\'' :: rest => iterate (shortStep '\'') [] rest
  | _ => none

/-- Takes a string; a line end right behind three opening quotes is no part of it. -/
def string : Reader String
  | '"' :: '"' :: '"' :: rest => iterate (longStep '"') [] ((lineEnd? rest).getD rest)
  | '\'' :: '\'' :: '\'' :: rest => iterate (longStep '\'') [] ((lineEnd? rest).getD rest)
  | text => shortString text

end Guidebook.Toml
