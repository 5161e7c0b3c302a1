import Guidebook.File
import Guidebook.Theme.Basic
import Guidebook.Toml.Document

namespace Guidebook

/-!
# Loading a theme

A theme file replaces settings one by one; those that it does not give keep
their defaults, and what is no setting is passed over.  A setting that is given
has to be of the right type.
-/

/-- Why a theme could not be loaded from a file of some name. -/
inductive ThemeError where
  | unreadable (path : String) (failure : ReadFailure)
  | malformed (path : String)
  deriving Repr, DecidableEq

/-- How an error is worded. -/
def ThemeError.message : ThemeError → String
  | .unreadable path failure =>
      "failed to read config file at " ++ path ++ ": " ++ failure.message
  | .malformed path => "failed to parse config file at " ++ path

namespace Toml

/-- A text setting. -/
def Value.string? : Value → Option String
  | .string text => some text
  | _ => none

/-- A setting that is on or off. -/
def Value.boolean? : Value → Option Bool
  | .boolean value => some value
  | _ => none

/-- A small number: a whole one from 0 to 255. -/
def Value.byte? : Value → Option Nat
  | .integer value => if 0 ≤ value ∧ value ≤ 255 then some value.toNat else none
  | _ => none

/-- The key under which a date or a time gives its notation where a table is asked for. -/
def dateTimeKey : String := "$__toml_private_datetime"

/--
The settings of a section.  A section is a table, or an array with the settings
in a fixed order; a date or a time counts as a table without any of them.
-/
def Value.section? (names : List String) : Value → Option Table
  | .table _ entries => some entries
  | .array items => some (names.zip items)
  | .tables items => some (names.zip (items.map (.table .header)))
  | .dateTime text => some [(dateTimeKey, .string text)]
  | _ => none

/-- A table of texts. -/
def Value.strings? : Value → Option (List (String × String))
  | .table _ entries =>
      entries.mapM fun (name, value) => value.string?.map fun text => (name, text)
  | .dateTime text => some [(dateTimeKey, text)]
  | _ => none

/-- The setting of a name, read as its type asks for, or its default when it is not given. -/
def Table.setting (table : Table) (name : String) (read? : Value → Option α) (default : α) :
    Option α :=
  match table.lookup name with
  | none => some default
  | some value => read? value

/--
The settings of the section of a name, read from its entries, or their defaults when
the section is not given.
-/
def Table.settings (table : Table) (name : String) (keys : List String)
    (ofEntries? : Table → Option α) (default : α) : Option α :=
  table.setting name (fun value => (value.section? keys).bind ofEntries?) default

end Toml

open Toml

namespace LinkStyle

/-- The keys of the section on links. -/
def keys : List String :=
  ["color", "underline"]

/-- The look of links that the entries of a section set. -/
def ofEntries? (entries : Table) : Option LinkStyle := do
  let default : LinkStyle := {}
  return {
    color := ← entries.setting "color" Value.string? default.color
    underline := ← entries.setting "underline" Value.boolean? default.underline }

end LinkStyle

namespace PageStyle

/-- The keys of the section on pages. -/
def keys : List String :=
  ["numbers"]

/-- The look of pages that the entries of a section set. -/
def ofEntries? (entries : Table) : Option PageStyle := do
  let default : PageStyle := {}
  return { numbers := ← entries.setting "numbers" Value.boolean? default.numbers }

end PageStyle

namespace HeadingStyle

/-- The keys of the section on headings. -/
def keys : List String :=
  ["offset"]

/-- The look of headings that the entries of a section set. -/
def ofEntries? (entries : Table) : Option HeadingStyle := do
  let default : HeadingStyle := {}
  return { offset := ← entries.setting "offset" Value.byte? default.offset }

end HeadingStyle

namespace CodeStyle

/-- The keys of the section on code. -/
def keys : List String :=
  ["line_numbers", "background", "foreground", "gutter", "label", "colors"]

/-- The look of code that the entries of a section set; a table of colours is taken as a whole. -/
def ofEntries? (entries : Table) : Option CodeStyle := do
  let default : CodeStyle := {}
  return {
    lineNumbers := ← entries.setting "line_numbers" Value.boolean? default.lineNumbers
    background := ← entries.setting "background" Value.string? default.background
    foreground := ← entries.setting "foreground" Value.string? default.foreground
    gutter := ← entries.setting "gutter" Value.string? default.gutter
    label := ← entries.setting "label" Value.string? default.label
    colors := ← entries.setting "colors" Value.strings? default.colors }

end CodeStyle

namespace CalloutStyle

/-- The keys of the section on admonitions. -/
def keys : List String :=
  ["note", "tip", "important", "warning", "caution"]

/-- The colours of admonitions that the entries of a section set. -/
def ofEntries? (entries : Table) : Option CalloutStyle := do
  let default : CalloutStyle := {}
  return {
    note := ← entries.setting "note" Value.string? default.note
    tip := ← entries.setting "tip" Value.string? default.tip
    important := ← entries.setting "important" Value.string? default.important
    warning := ← entries.setting "warning" Value.string? default.warning
    caution := ← entries.setting "caution" Value.string? default.caution }

end CalloutStyle

namespace Theme

/-- The theme that a table sets, when every setting in it is of the right type. -/
def ofTable? (table : Table) : Option Theme := do
  let default : Theme := {}
  return {
    links := ← table.settings "links" LinkStyle.keys LinkStyle.ofEntries? default.links
    page := ← table.settings "page" PageStyle.keys PageStyle.ofEntries? default.page
    headings := ←
      table.settings "headings" HeadingStyle.keys HeadingStyle.ofEntries? default.headings
    code := ← table.settings "code" CodeStyle.keys CodeStyle.ofEntries? default.code
    callouts := ←
      table.settings "callouts" CalloutStyle.keys CalloutStyle.ofEntries? default.callouts }

/-- The theme that a text sets, as some reader of TOML takes the text. -/
def ofTextBy? (document? : Text → Option Table) (text : Text) : Option Theme :=
  (document? text).bind ofTable?

/-- Loads a theme, with some reader of TOML, from what reading the file of some name gave. -/
def loadBy (document? : Text → Option Table) (path : String)
    (content : Except ReadFailure ByteArray) : Except ThemeError Theme :=
  match content >>= decodeText with
  | .error failure => .error (.unreadable path failure)
  | .ok text =>
      match ofTextBy? document? text with
      | none => .error (.malformed path)
      | some theme => .ok theme

/-- Loads a theme from what reading the file of some name gave. -/
def load : String → Except ReadFailure ByteArray → Except ThemeError Theme :=
  loadBy Toml.document?

/-! ## The theme that is shipped -/

/-- The lines of the theme file that is shipped. -/
def shippedLines : List String := [
  "# Rendering defaults for guides. Any key can be overridden by a user",
  "# config file passed with \x60--config\x60.",
  "",
  "[links]",
  "color = \"#1a4f8b\"",
  "underline = true",
  "",
  "[page]",
  "numbers = false",
  "",
  "[headings]",
  "# Added to every heading level; \x60#\x60 renders one level below the title.",
  "offset = 1",
  "",
  "[code]",
  "line_numbers = true",
  "background = \"#0f172a\"",
  "foreground = \"#cbd5e1\"",
  "gutter = \"#475569\"",
  "label = \"#94a3b8\"",
  "",
  "[code.colors]",
  "comment = \"#64748b\"",
  "string = \"#34d399\"",
  "keyword = \"#f87171\"",
  "function = \"#60a5fa\"",
  "decorator = \"#facc15\"",
  "number = \"#c084fc\"",
  "key = \"#22d3ee\"",
  "boolean = \"#f87171\"",
  "null = \"#64748b\"",
  "placeholder = \"#facc15\"",
  "variable = \"#facc15\"",
  "flag = \"#22d3ee\"",
  "operator = \"#f87171\"",
  "",
  "[callouts]",
  "note = \"#3b82f6\"",
  "tip = \"#22c55e\"",
  "important = \"#a855f7\"",
  "warning = \"#eab308\"",
  "caution = \"#ef4444\""]

/-- The theme file that is shipped. -/
def shippedText : Text :=
  shippedLines.flatMap fun line => line.toList ++ ['\n']

/-- The theme of a guide for which no file is given. -/
def shipped : Theme :=
  (ofTextBy? Toml.document? shippedText).getD {}

end Theme

end Guidebook
