namespace Guidebook.Toml

/-!
# TOML values and how tables grow

A table may be written in several places of a document.  Where each part of it
came from decides which later parts may still add to it.
-/

/-- How a table came to be. -/
inductive Origin where
  /-- It was passed through by a longer header. -/
  | implied
  /-- It was made by a dotted key. -/
  | dotted
  /-- It has a header of its own. -/
  | header
  /-- It was written as a value. -/
  | inline
  deriving Repr, DecidableEq

/-- A value. -/
inductive Value where
  | string (text : String)
  | integer (value : Int)
  /-- A number with a fraction or an exponent, as it is written. -/
  | float (text : String)
  | boolean (value : Bool)
  /-- A date, a time or both, in their usual notation. -/
  | dateTime (text : String)
  | array (items : List Value)
  /-- The tables whose header is written in double brackets. -/
  | tables (items : List (List (String × Value)))
  | table (origin : Origin) (entries : List (String × Value))
  deriving Repr, Inhabited

/-- The entries of a table, in the order of their first keys. -/
abbrev Table := List (String × Value)

namespace Table

/-- Gives a key a value, in the place of the one it has or else at the end. -/
def put (key : String) (value : Value) : Table → Table
  | [] => [(key, value)]
  | entry :: rest =>
      if entry.1 = key then (key, value) :: rest else entry :: put key value rest

/-- Changes the last of the tables under a header in double brackets. -/
def changeLast (change : Table → Option Table) : List Table → Option (List Table)
  | [] => none
  | [table] => (change table).map fun changed => [changed]
  | table :: rest => (changeLast change rest).map (table :: ·)

/--
Adds a value under a dotted key.  A table on the way may be one that no header
has named, but the table that gets the value must be made by dotted keys alone.
-/
def insert (value : Value) : List String → Table → Option Table
  | [], _ => none
  | [key], table =>
      match table.lookup key with
      | none => some (table.put key value)
      | some _ => none
  | step :: rest, table =>
      match table.lookup step with
      | none => (insert value rest []).map fun inside => table.put step (.table .dotted inside)
      | some (.table origin inside) =>
          if origin = .dotted ∨ origin = .implied ∧ 1 < rest.length then
            (insert value rest inside).map fun inside => table.put step (.table origin inside)
          else
            none
      | some (.tables items) =>
          if 1 < rest.length then
            (changeLast (insert value rest) items).map fun items => table.put step (.tables items)
          else
            none
      | some _ => none

/-- Changes the table that a header path leads to; tables on the way are made as needed. -/
def changeAt (change : Table → Option Table) : List String → Table → Option Table
  | [], table => change table
  | step :: rest, table =>
      match table.lookup step with
      | none => (changeAt change rest []).map fun inside => table.put step (.table .implied inside)
      | some (.table origin inside) =>
          if origin = .inline then none
          else
            (changeAt change rest inside).map fun inside => table.put step (.table origin inside)
      | some (.tables items) =>
          (changeLast (changeAt change rest) items).map fun items => table.put step (.tables items)
      | some _ => none

/-- Names a table by a header: a new one, or one that was only implied so far. -/
def openTable (key : String) (table : Table) : Option Table :=
  match table.lookup key with
  | none => some (table.put key (.table .header []))
  | some (.table .implied inside) => some (table.put key (.table .header inside))
  | some _ => none

/-- Starts one more of the tables under a header in double brackets. -/
def openElement (key : String) (table : Table) : Option Table :=
  match table.lookup key with
  | none => some (table.put key (.tables [[]]))
  | some (.tables items) => some (table.put key (.tables (items ++ [[]])))
  | some _ => none

end Table

end Guidebook.Toml
