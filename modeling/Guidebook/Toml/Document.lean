import Guidebook.Toml.DateTime

namespace Guidebook.Toml

/-!
# TOML documents

A document is a sequence of lines, each with a header or with a key and its
value.  Arrays and inline tables may go on over several lines.
-/

/-- Whether a character may stand in a key without quotes. -/
def isKeyCharacter (character : Char) : Bool :=
  character.isAlphanum || character == '_' || character == '-'

/-- Takes one part of a key. -/
def keyPart : Reader String := fun text =>
  let bare := text.takeWhile isKeyCharacter
  if bare.isEmpty then shortString text
  else some (String.ofList bare, text.dropWhile isKeyCharacter)

/-- One step through a dotted key; the parts so far are kept backwards. -/
def keyStep (passed : List String) (text : Text) : Step (List String) (List String) :=
  match keyPart (skipSpaces text) with
  | none => .fail
  | some (part, rest) =>
      match skipSpaces rest with
      | '.' :: more => .more (part :: passed) more
      | after => .done (part :: passed).reverse after

/-- Takes a key with its parts, and the spaces around it. -/
def key : Reader (List String) :=
  iterate keyStep []

/-- Whether a character may stand in a number, a date or a truth value. -/
def isPlainCharacter (character : Char) : Bool :=
  isKeyCharacter character || character == '+' || character == '.' || character == ':'

/-- The value that is written without quotes or brackets. -/
def plain? (text : Text) : Option Value :=
  if text = ['t', 'r', 'u', 'e'] then some (.boolean true)
  else if text = ['f', 'a', 'l', 's', 'e'] then some (.boolean false)
  else integer? text <|> float? text <|> dateTime? text

/-- Takes a value without quotes or brackets.  One space may part a date from a time. -/
def plain : Reader Value := fun text =>
  let word := text.takeWhile isPlainCharacter
  let rest := text.dropWhile isPlainCharacter
  let (spelled, after) :=
    match date word, rest with
    | some (_, []), ' ' :: digit :: more =>
        if digit.isDigit then
          let later := digit :: more
          (word ++ ' ' :: later.takeWhile isPlainCharacter, later.dropWhile isPlainCharacter)
        else
          (word, rest)
    | _, _ => (word, rest)
  (plain? spelled).map fun value => (value, after)

/-- One step through an array behind its opening bracket; items are kept backwards. -/
def arrayStep (value : Reader Value) (items : List Value) (text : Text) :
    Step (List Value) Value :=
  match skipLines false text with
  | ']' :: rest => .done (.array items.reverse) rest
  | start =>
      match value start with
      | none => .fail
      | some (item, rest) =>
          match skipLines false rest with
          | ',' :: after => .more (item :: items) after
          | ']' :: after => .done (.array (item :: items).reverse) after
          | _ => .fail

/-- Takes a key, an equals sign and a value. -/
def keyValue (value : Reader Value) : Reader (List String × Value) := fun text =>
  match key text with
  | some (path, '=' :: rest) =>
      (value (skipSpaces rest)).map fun (value, after) => ((path, value), after)
  | _ => none

/-- One step through an inline table behind its opening brace. -/
def inlineStep (value : Reader Value) (table : Table) (text : Text) : Step Table Value :=
  match skipLines false text with
  | '\x7d' :: rest => .done (.table .inline table) rest
  | start =>
      match keyValue value start with
      | none => .fail
      | some ((path, value), rest) =>
          match table.insert value path, skipLines false rest with
          | some table, ',' :: after => .more table after
          | some table, '\x7d' :: after => .done (.table .inline table) after
          | _, _ => .fail

/-- Arrays and inline tables lie in each other at most this deep. -/
def maxNesting : Nat := 80

/-- Takes a value that holds no other values. -/
def simpleValue : Reader Value := fun text =>
  match string text with
  | some (text, rest) => some (.string text, rest)
  | none => plain text

/-- Takes a value that holds arrays and inline tables at most so many levels deep. -/
def value : Nat → Reader Value
  | 0, text => simpleValue text
  | levels + 1, text =>
      match text with
      | '[' :: rest => iterate (arrayStep (value levels)) [] rest
      | '\x7b' :: rest => iterate (inlineStep (value levels)) [] rest
      | _ => simpleValue text

/-- The part of a document that was read: its tables, and the header in force. -/
structure Progress where
  root : Table
  header : List String
  deriving Repr, Inhabited

namespace Progress

/-- Takes note of a header in single brackets. -/
def enterTable (progress : Progress) (path : List String) : Option Progress := do
  let last ← path.getLast?
  let root ← Table.changeAt (Table.openTable last) path.dropLast progress.root
  return ⟨root, path⟩

/-- Takes note of a header in double brackets. -/
def enterElement (progress : Progress) (path : List String) : Option Progress := do
  let last ← path.getLast?
  let root ← Table.changeAt (Table.openElement last) path.dropLast progress.root
  return ⟨root, path⟩

/-- Takes note of a key and its value below the header in force. -/
def addValue (progress : Progress) (path : List String) (value : Value) : Option Progress := do
  let root ← Table.changeAt (Table.insert value path) progress.header progress.root
  return ⟨root, progress.header⟩

end Progress

/-- Takes a header or a key with its value off a line that holds one. -/
def entry (progress : Progress) : Reader Progress := fun text =>
  match text with
  | '[' :: '[' :: rest =>
      match key rest with
      | some (path, ']' :: ']' :: after) =>
          (progress.enterElement path).map fun progress => (progress, after)
      | _ => none
  | '[' :: rest =>
      match key rest with
      | some (path, ']' :: after) =>
          (progress.enterTable path).map fun progress => (progress, after)
      | _ => none
  | _ =>
      match keyValue (value maxNesting) text with
      | some ((path, value), after) =>
          (progress.addValue path value).map fun progress => (progress, after)
      | none => none

/-- One step through a document: a line, be it empty or not. -/
def lineStep (progress : Progress) (text : Text) : Step Progress Table :=
  let start := skipSpaces text
  let read :=
    match start with
    | [] => some (progress, [])
    | character :: _ =>
        if character = '#' ∨ (lineEnd? start).isSome then some (progress, start)
        else entry progress start
  match read with
  | none => .fail
  | some (progress, rest) =>
      match skipComment (skipSpaces rest) with
      | [] => .done progress.root []
      | after =>
          match lineEnd? after with
          | none => .fail
          | some next => .more progress next

/-- The table that a document describes; a byte order mark in front is no part of it. -/
def document? (text : Text) : Option Table :=
  let body :=
    match text with
    | '\uFEFF' :: rest => rest
    | _ => text
  (iterate lineStep ⟨[], []⟩ body).map (·.1)

end Guidebook.Toml
