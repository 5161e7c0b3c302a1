import Guidebook.Block.Row
import Guidebook.Text.Digit

namespace Guidebook

/-!
# Kinds of lines

Every line is of one kind, told by its text without the blanks around it.  The
kind of a line says which block it can open and whether it can carry on the
block before it.
-/

/-- What a line can open. -/
inductive LineKind where
  | heading (level : Nat) (content : Text)
  | rule
  /-- A line between bars; it opens a table when a row of dashes follows. -/
  | row (cells : List Text)
  | quote (content : Text)
  | fence (marker : Char) (length : Nat) (info : Text)
  | command (command : Text)
  | item (ordered : Bool) (body : Text)
  | blank
  | prose
  deriving Repr, DecidableEq

namespace LineKind

/-- The deepest heading level; a longer run of marks counts as this one. -/
def maxHeadingLevel : Nat := 6

/-- A run of number signs and a blank make a heading of what follows. -/
def heading? (line : Text) : Option LineKind :=
  let level := Text.runLength '#' line
  match line.drop level with
  | [] => none
  | character :: content =>
      if 0 < level ∧ isBlank character then
        some (.heading (min level maxHeadingLevel) (Text.trim content))
      else
        none

/-- Whether a line is a rule between blocks. -/
def isRule (line : Text) : Bool :=
  line == ['-', '-', '-'] || line == ['*', '*', '*'] || line == ['*', ' ', '*', ' ', '*']

/-- Three or more equal backticks or tildes make a fence; what follows them describes it. -/
def fence? (line : Text) : Option LineKind :=
  match line with
  | [] => none
  | marker :: _ =>
      let length := Text.runLength marker line
      if (marker == '\x60' || marker == '~') && 3 ≤ length then
        some (.fence marker length (line.drop length))
      else
        none

/-- A star, a dash or a number with a full stop, and a blank, make an item of what follows. -/
def item? (line : Text) : Option LineKind :=
  match line with
  | '*' :: ' ' :: body => some (.item false (Text.trimStart body))
  | '-' :: ' ' :: body => some (.item false (Text.trimStart body))
  | _ =>
      match line.dropWhile isDecimalDigit with
      | '.' :: character :: body =>
          if isBlank character && line.head?.any isDecimalDigit then
            some (.item true (Text.trimStart body))
          else
            none
      | _ => none

/-- The kind of a line that has no blanks around it. -/
def ofTrimmed (line : Text) : LineKind :=
  match line with
  | [] => .blank
  | '>' :: ' ' :: text => .quote text
  | '>' :: text => .quote text
  | '$' :: text => .command (Text.trimStart text)
  | _ =>
      if isRule line then .rule
      else
        match (rowCells? line).map row <|> heading? line <|> fence? line <|> item? line with
        | some kind => kind
        | none => .prose

/-- The kind of a line. -/
def of (line : Line) : LineKind :=
  ofTrimmed line.trim

end LineKind

end Guidebook
