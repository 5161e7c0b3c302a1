import Guidebook.Command.Run
import Guidebook.Proofs.Json.Reading
import Guidebook.Proofs.Json.Validity

namespace Guidebook

/-!
# Guides read back from JSON

The data of a guide tells everything about its blocks: a decoder that looks at the
members of the objects finds the blocks again, and so does one that starts from the
text that is printed for them.
-/

mutual

/-- The span that data describes. -/
def Span.ofJson? : Json → Option Span
  | .object [("text", .string content)] => some (.text content)
  | .object [("bold", .array content)] => (Span.allOfJson? content).map .bold
  | .object [("italic", .array content)] => (Span.allOfJson? content).map .italic
  | .object [("strikethrough", .array content)] => (Span.allOfJson? content).map .strikethrough
  | .object [("code", .string content)] => some (.code content)
  | .object [("link", .object [("url", .string url), ("content", .array content)])] =>
      (Span.allOfJson? content).map (.link url)
  | .object [("image", .object [("alt", .string alt), ("url", .string url)])] =>
      some (.image alt url)
  | _ => none

/-- The spans that items describe. -/
def Span.allOfJson? : List Json → Option (List Span)
  | [] => some []
  | item :: rest => do return (← Span.ofJson? item) :: (← Span.allOfJson? rest)

end

mutual

/-- A span is read back from its JSON. -/
theorem Span.ofJson?_toJson
    (span : Span) :
    ofJson? span.toJson = some span := by
  cases span with
  | text | code | image =>
      rw [toJson, ofJson?]
  | bold content | italic content | strikethrough content | link url content =>
      rw [toJson, ofJson?, allOfJson?_allToJson content, Option.map_some]

/-- Spans are read back from their JSON, one by one. -/
theorem Span.allOfJson?_allToJson
    (spans : List Span) :
    allOfJson? (allToJson spans) = some spans := by
  cases spans with
  | nil =>
      rfl
  | cons span rest =>
      rw [allToJson, allOfJson?, ofJson?_toJson span, allOfJson?_allToJson rest]
      rfl

end

/-- The line of spans that data describes. -/
def Span.lineOfJson? : Json → Option (List Span)
  | .array items => Span.allOfJson? items
  | _ => none

theorem Span.lineOfJson?_lineToJson
    (spans : List Span) :
    lineOfJson? (lineToJson spans) = some spans :=
  allOfJson?_allToJson spans

/-- What data says about whether a task is done. -/
def checkedOfJson? : Json → Option (Option Bool)
  | .null => some none
  | .boolean checked => some (some checked)
  | _ => none

theorem checkedOfJson?_checkedToJson
    (checked : Option Bool) :
    checkedOfJson? (checkedToJson checked) = some checked := by
  cases checked <;> rfl

mutual

/-- The list that members describe. -/
def ItemList.ofMembers? : List (String × Json) → Option ItemList
  | [("ordered", .boolean ordered), ("items", .array items)] =>
      (Item.allOfJson? items).map (.mk ordered)
  | _ => none

/-- The list, or the absence of one, that data describes. -/
def ItemList.ofNested? : Json → Option (Option ItemList)
  | .null => some none
  | .object members => (ItemList.ofMembers? members).map some
  | _ => none

/-- The items that data describes one by one. -/
def Item.allOfJson? : List Json → Option (List Item)
  | [] => some []
  | .object [("content", content), ("nested", nested), ("checked", checked)] :: rest => do
      let content ← Span.lineOfJson? content
      let checked ← checkedOfJson? checked
      let nested ← ItemList.ofNested? nested
      return .mk content checked nested :: (← Item.allOfJson? rest)
  | _ => none

end

mutual

/-- A list is read back from its members, with the items below its items. -/
theorem ItemList.ofMembers?_members
    (list : ItemList) :
    ItemList.ofMembers? list.members = some list := by
  cases list with
  | mk ordered items =>
      rw [ItemList.members, ItemList.ofMembers?, Item.allOfJson?_allToJson items,
        Option.map_some]

/-- Items are read back with the lists below them. -/
theorem Item.allOfJson?_allToJson
    (items : List Item) :
    Item.allOfJson? (Item.allToJson items) = some items := by
  cases items with
  | nil =>
      rfl
  | cons item rest =>
      obtain ⟨content, checked, nested⟩ := item
      cases nested with
      | none =>
          rw [Item.allToJson, Item.allOfJson?, Span.lineOfJson?_lineToJson,
            checkedOfJson?_checkedToJson, ItemList.ofNested?, Item.allOfJson?_allToJson rest]
          rfl
      | some nested =>
          rw [Item.allToJson, Item.allOfJson?, Span.lineOfJson?_lineToJson,
            checkedOfJson?_checkedToJson, ItemList.ofNested?,
            ItemList.ofMembers?_members nested, Item.allOfJson?_allToJson rest]
          rfl

end

/-- The kind of admonition that a word stands for. -/
def Callout.ofName? (name : String) : Option Callout :=
  all.find? fun callout => callout.name == name

/-- The kind of admonition, or the absence of one, that data describes. -/
def calloutOfJson? : Json → Option (Option Callout)
  | .null => some none
  | .string name => (Callout.ofName? name).map some
  | _ => none

/-- The kind of a callout is read back from its name. -/
theorem calloutOfJson?_calloutToJson
    (callout : Option Callout) :
    calloutOfJson? (calloutToJson callout) = some callout := by
  cases callout with
  | none =>
      rfl
  | some callout =>
      cases callout <;> decide

/-- The alignment that data describes. -/
def Alignment.ofJson? : Json → Option Alignment
  | .string name => [none, left, center, right].find? fun alignment => alignment.name == name
  | _ => .none

theorem Alignment.ofJson?_name
    (alignment : Alignment) :
    ofJson? (.string alignment.name) = some alignment := by
  cases alignment <;> decide

/-- The text that data describes. -/
def Json.string? : Json → Option String
  | .string text => some text
  | _ => none

theorem Json.string?_string
    (text : String) :
    string? (.string text) = some text :=
  rfl

/-- The items of an array, each read in the same way. -/
def Json.items? (read? : Json → Option α) : Json → Option (List α)
  | .array items => items.mapM read?
  | _ => none

/-- Items that are read back one by one are read back together. -/
theorem Json.items?_array_map
    {read? : Json → Option α}
    {toJson : α → Json}
    (readsBack : ∀ value, read? (toJson value) = some value)
    (values : List α) :
    items? read? (.array (values.map toJson)) = some values := by
  have whole : read? ∘ toJson = fun value => pure value :=
    funext readsBack
  rw [items?, List.mapM_map, whole, List.mapM_pure, List.map_id']
  rfl

namespace Block

/-- The block that data describes. -/
def ofJson? : Json → Option Block
  | .object [("type", .string "heading"), ("level", .number level), ("content", content)] =>
      (Span.lineOfJson? content).map (.heading level)
  | .object [("type", .string "paragraph"), ("content", content)] =>
      (Span.lineOfJson? content).map .paragraph
  | .object [("type", .string "code_block"), ("language", .string language), ("lines", lines)] =>
      (lines.items? Json.string?).map (.codeBlock language)
  | .object (("type", .string "list") :: members) =>
      (ItemList.ofMembers? members).map .list
  | .object [("type", .string "table"), ("alignments", alignments), ("headers", headers),
      ("rows", rows)] => do
      let alignments ← alignments.items? Alignment.ofJson?
      let headers ← headers.items? Span.lineOfJson?
      let rows ← rows.items? (Json.items? Span.lineOfJson?)
      return .table alignments headers rows
  | .object [("type", .string "blockquote"), ("callout", callout), ("paragraphs", paragraphs)] => do
      let callout ← calloutOfJson? callout
      let paragraphs ← paragraphs.items? Span.lineOfJson?
      return .blockquote callout paragraphs
  | .object [("type", .string "rule")] => some .rule
  | _ => none

/-- A block of any kind is read back from its JSON. -/
theorem ofJson?_toJson
    (block : Block) :
    ofJson? block.toJson = some block := by
  cases block with
  | heading level content =>
      rw [toJson, ofJson?, Span.lineOfJson?_lineToJson, Option.map_some]
  | paragraph content =>
      rw [toJson, ofJson?, Span.lineOfJson?_lineToJson, Option.map_some]
  | codeBlock language lines =>
      rw [toJson, ofJson?, Json.items?_array_map Json.string?_string, Option.map_some]
  | list items =>
      rw [toJson, ofJson?, ItemList.ofMembers?_members, Option.map_some]
  | table alignments headers rows =>
      rw [toJson, ofJson?, Json.items?_array_map Alignment.ofJson?_name,
        Json.items?_array_map Span.lineOfJson?_lineToJson,
        Json.items?_array_map fun row => Json.items?_array_map Span.lineOfJson?_lineToJson row]
      rfl
  | blockquote callout paragraphs =>
      rw [toJson, ofJson?, calloutOfJson?_calloutToJson,
        Json.items?_array_map Span.lineOfJson?_lineToJson]
      rfl
  | rule =>
      rw [toJson, ofJson?]

/-- The blocks that data describes. -/
def allOfJson? (data : Json) : Option (List Block) :=
  data.items? ofJson?

/-- The blocks of a guide are read back from their JSON. -/
theorem allOfJson?_allToJson
    (blocks : List Block) :
    allOfJson? (allToJson blocks) = some blocks :=
  Json.items?_array_map ofJson?_toJson blocks

/-- The blocks that a JSON text describes. -/
def allOfText? (text : Text) : Option (List Block) :=
  (Json.ofText? text).bind allOfJson?

/-- What is printed for the blocks of a guide. -/
def printedTree (blocks : List Block) : Text :=
  (Command.printed (allToJson blocks)).output

/-- The blocks of a guide are read back from the text that is printed of them. -/
theorem allOfText?_printedTree
    (blocks : List Block) :
    allOfText? (printedTree blocks) = some blocks := by
  have read : Json.ofText? (printedTree blocks) = some (allToJson blocks) :=
    Json.ofText?_toText_append _ (by simp [Json.blanks])
  rw [allOfText?, read, Option.bind_some, allOfJson?_allToJson]

/-- The printed tree determines the blocks: no other blocks are printed in the same way,
and what is printed is valid JSON in which a decoder finds the blocks again. -/
theorem printedTree_determines_blocks :
    Function.Injective printedTree ∧
      ∀ blocks, Json.IsValid (printedTree blocks) ∧
        allOfText? (printedTree blocks) = some blocks := by
  refine ⟨fun blocks others printedAlike => ?_, fun blocks =>
    ⟨Json.isValid_toText_append _ (by simp), allOfText?_printedTree blocks⟩⟩
  have readAlike : some blocks = some others := by
    rw [← allOfText?_printedTree blocks, printedAlike, allOfText?_printedTree]
  exact Option.some.inj readAlike

end Block

end Guidebook
