import Guidebook.Block.Basic
import Guidebook.Code.Token
import Guidebook.Json.Basic

namespace Guidebook

/-!
# Guides and code as JSON

A span is an object whose one member tells its kind, a block one whose first
member does.
-/

mutual

/-- A span as data. -/
def Span.toJson : Span → Json
  | .text content => .object [("text", .string content)]
  | .bold content => .object [("bold", .array (Span.allToJson content))]
  | .italic content => .object [("italic", .array (Span.allToJson content))]
  | .strikethrough content => .object [("strikethrough", .array (Span.allToJson content))]
  | .code content => .object [("code", .string content)]
  | .link url content =>
      .object [("link",
        .object [("url", .string url), ("content", .array (Span.allToJson content))])]
  | .image alt url => .object [("image", .object [("alt", .string alt), ("url", .string url)])]

/-- Each of some spans as data. -/
def Span.allToJson : List Span → List Json
  | [] => []
  | span :: rest => span.toJson :: Span.allToJson rest

end

/-- A line of spans as data. -/
def Span.lineToJson (spans : List Span) : Json :=
  .array (Span.allToJson spans)

/-- Whether a task is done, as data. -/
def checkedToJson : Option Bool → Json
  | none => .null
  | some checked => .boolean checked

mutual

/-- The members that describe a list. -/
def ItemList.members : ItemList → List (String × Json)
  | .mk ordered items => [("ordered", .boolean ordered), ("items", .array (Item.allToJson items))]

/-- Each of some items as data. -/
def Item.allToJson : List Item → List Json
  | [] => []
  | .mk content checked none :: rest =>
      .object [("content", Span.lineToJson content), ("nested", .null),
        ("checked", checkedToJson checked)] :: Item.allToJson rest
  | .mk content checked (some nested) :: rest =>
      .object [("content", Span.lineToJson content), ("nested", .object nested.members),
        ("checked", checkedToJson checked)] :: Item.allToJson rest

end

/-- A kind of admonition as data. -/
def calloutToJson : Option Callout → Json
  | none => .null
  | some callout => .string callout.name

/-- A block as data. -/
def Block.toJson : Block → Json
  | .heading level content =>
      .object [("type", .string "heading"), ("level", .number level),
        ("content", Span.lineToJson content)]
  | .paragraph content =>
      .object [("type", .string "paragraph"), ("content", Span.lineToJson content)]
  | .codeBlock language lines =>
      .object [("type", .string "code_block"), ("language", .string language),
        ("lines", .array (lines.map .string))]
  | .list items => .object (("type", .string "list") :: items.members)
  | .table alignments headers rows =>
      .object [("type", .string "table"),
        ("alignments", .array (alignments.map fun alignment => .string alignment.name)),
        ("headers", .array (headers.map Span.lineToJson)),
        ("rows", .array (rows.map fun row => .array (row.map Span.lineToJson)))]
  | .blockquote callout paragraphs =>
      .object [("type", .string "blockquote"), ("callout", calloutToJson callout),
        ("paragraphs", .array (paragraphs.map Span.lineToJson))]
  | .rule => .object [("type", .string "rule")]

/-- Blocks as data. -/
def Block.allToJson (blocks : List Block) : Json :=
  .array (blocks.map Block.toJson)

/-- A fragment of code as data. -/
def Fragment.toJson (fragment : Fragment) : Json :=
  let text := String.ofList fragment.text
  match fragment.kind with
  | none => .object [("plain", .string text)]
  | some kind =>
      .object [("classified", .object [("text", .string text), ("kind", .string kind.name)])]

/-- Lines of code as data. -/
def Fragment.linesToJson (lines : List (List Fragment)) : Json :=
  .array (lines.map fun line => .array (line.map Fragment.toJson))

end Guidebook
