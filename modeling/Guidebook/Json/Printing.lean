import Guidebook.Json.Basic
import Guidebook.Text.Basic

namespace Guidebook

/-!
# Printed JSON

Each item and member stands on a line of its own, indented by two spaces for
each array or object that it lies in.  Empty arrays and objects take no line.
Strings keep every character but quotes, backslashes and control characters.
-/

namespace Json

/-- The hexadecimal digit of a value below sixteen. -/
def hexDigit (value : Nat) : Char :=
  Char.ofNat (if value < 10 then value + '0'.toNat else value - 10 + 'a'.toNat)

/-- A character within a string. -/
def quoteCharacter (character : Char) : Text :=
  if character = '"' then ['\\', '"']
  else if character = '\\' then ['\\', '\\']
  else if character = '\x08' then ['\\', 'b']
  else if character = '\t' then ['\\', 't']
  else if character = '\n' then ['\\', 'n']
  else if character = '\x0c' then ['\\', 'f']
  else if character = '\r' then ['\\', 'r']
  else if character.toNat < 0x20 then
    ['\\', 'u', '0', '0', hexDigit (character.toNat / 16), hexDigit (character.toNat % 16)]
  else [character]

/-- A string between quotes. -/
def quote (text : String) : Text :=
  '"' :: text.toList.flatMap quoteCharacter ++ ['"']

/-- The start of a line that lies so deep. -/
def lineStart (depth : Nat) : Text :=
  '\n' :: List.replicate (2 * depth) ' '

mutual

/-- A value that lies so deep. -/
def print (depth : Nat) : Json → Text
  | .null => "null".toList
  | .boolean true => "true".toList
  | .boolean false => "false".toList
  | .number value => Text.decimal value
  | .string text => quote text
  | .array [] => "[]".toList
  | .array (item :: rest) =>
      '[' :: lineStart (depth + 1) ++ item.print (depth + 1) ++ printItems (depth + 1) rest ++
        lineStart depth ++ [']']
  | .object [] => "\x7b\x7d".toList
  | .object ((name, value) :: rest) =>
      '\x7b' :: lineStart (depth + 1) ++ quote name ++ ": ".toList ++ value.print (depth + 1) ++
        printMembers (depth + 1) rest ++ lineStart depth ++ ['\x7d']

/-- The items after the first one. -/
def printItems (depth : Nat) : List Json → Text
  | [] => []
  | item :: rest => ',' :: lineStart depth ++ item.print depth ++ printItems depth rest

/-- The members after the first one. -/
def printMembers (depth : Nat) : List (String × Json) → Text
  | [] => []
  | (name, value) :: rest =>
      ',' :: lineStart depth ++ quote name ++ ": ".toList ++ value.print depth ++
        printMembers depth rest

end

/-- A value as a text. -/
def toText (value : Json) : Text :=
  value.print 0

end Json

end Guidebook
