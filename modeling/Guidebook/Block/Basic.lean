import Guidebook.Span.Basic

namespace Guidebook

/-!
# Blocks

The parts a guide is made of: headings, paragraphs, code, lists, tables,
quotes and rules.
-/

/-- The kinds of admonition that a quote can carry. -/
inductive Callout where
  | note
  | tip
  | important
  | warning
  | caution
  deriving Repr, DecidableEq

namespace Callout

/-- All kinds of admonition. -/
def all : List Callout :=
  [.note, .tip, .important, .warning, .caution]

/-- The title shown above an admonition. -/
def title : Callout → String
  | .note => "Note"
  | .tip => "Tip"
  | .important => "Important"
  | .warning => "Warning"
  | .caution => "Caution"

/-- The word that stands for an admonition in data. -/
def name : Callout → String
  | .note => "note"
  | .tip => "tip"
  | .important => "important"
  | .warning => "warning"
  | .caution => "caution"

/-- The admonition that a marker names by its title, in any mix of ASCII cases. -/
def ofMarker? (marker : List Char) : Option Callout :=
  all.find? fun callout =>
    callout.title.toList.map Char.toLower == marker.map Char.toLower

end Callout

/-- How the cells of a table column are aligned. -/
inductive Alignment where
  | none
  | left
  | center
  | right
  deriving Repr, DecidableEq

/-- The word that stands for an alignment in data. -/
def Alignment.name : Alignment → String
  | .none => "none"
  | .left => "left"
  | .center => "center"
  | .right => "right"

mutual

/-- An item of a list: its content, its task box when it has one, and the list inside it. -/
inductive Item where
  | mk (content : List Span) (checked : Option Bool) (nested : Option ItemList)
  deriving Repr

/-- A list, numbered or not. -/
inductive ItemList where
  | mk (ordered : Bool) (items : List Item)
  deriving Repr

end

/-- A table cell. -/
abbrev Cell := List Span

/-- A part of a guide. -/
inductive Block where
  | heading (level : Nat) (content : List Span)
  | paragraph (content : List Span)
  | codeBlock (language : String) (lines : List String)
  | list (items : ItemList)
  | table (alignments : List Alignment) (headers : List Cell) (rows : List (List Cell))
  | blockquote (callout : Option Callout) (paragraphs : List (List Span))
  | rule
  deriving Repr

end Guidebook
