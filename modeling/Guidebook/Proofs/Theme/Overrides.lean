import Guidebook.Proofs.Theme.Settings
import Mathlib

namespace Guidebook

/-!
# Themes as typed overrides of the defaults

A theme file overrides the defaults setting by setting.  It is refused just when it
is no TOML or when a section or a setting in it is of the wrong type; else each
setting is what the file gives, whatever else stands in it.  A date or a time may
stand where a table is asked for, as a table with an entry of its own.
-/

open Toml

/-- The settings of a theme, but for the colours of kinds of tokens. -/
inductive Setting where
  | linkColor
  | linkUnderline
  | pageNumbers
  | headingOffset
  | lineNumbers
  | background
  | foreground
  | gutter
  | label
  | callout (kind : Callout)
  deriving Repr, DecidableEq

namespace Setting

/-- The section that a setting stands in. -/
def sectionName : Setting → String
  | .linkColor => "links"
  | .linkUnderline => "links"
  | .pageNumbers => "page"
  | .headingOffset => "headings"
  | .lineNumbers => "code"
  | .background => "code"
  | .foreground => "code"
  | .gutter => "code"
  | .label => "code"
  | .callout _ => "callouts"

/-- The key of a setting in its section. -/
def key : Setting → String
  | .linkColor => "color"
  | .linkUnderline => "underline"
  | .pageNumbers => "numbers"
  | .headingOffset => "offset"
  | .lineNumbers => "line_numbers"
  | .background => "background"
  | .foreground => "foreground"
  | .gutter => "gutter"
  | .label => "label"
  | .callout kind => kind.name

/-- The type of a setting. -/
abbrev type : Setting → ScalarType
  | .linkColor => .text
  | .linkUnderline => .switch
  | .pageNumbers => .switch
  | .headingOffset => .small
  | .lineNumbers => .switch
  | .background => .text
  | .foreground => .text
  | .gutter => .text
  | .label => .text
  | .callout _ => .text

end Setting

/-- The file that holds a text is read as that text. -/
theorem decodeText_toUTF8
    (content : String) :
    ((.ok content.toUTF8 : Except ReadFailure ByteArray) >>= decodeText) =
      .ok content.toList := by
  have isValid : content.toUTF8.IsValidUTF8 := content.isValidUTF8
  have decoded : String.fromUTF8? content.toUTF8 = some content :=
    dif_pos isValid
  change decodeText content.toUTF8 = .ok content.toList
  rw [decodeText, decoded]

namespace Theme

/-- What a setting is in a theme. -/
def value (theme : Theme) : (setting : Setting) → setting.type.Carrier
  | .linkColor => theme.links.color
  | .linkUnderline => theme.links.underline
  | .pageNumbers => theme.page.numbers
  | .headingOffset => theme.headings.offset
  | .lineNumbers => theme.code.lineNumbers
  | .background => theme.code.background
  | .foreground => theme.code.foreground
  | .gutter => theme.code.gutter
  | .label => theme.code.label
  | .callout kind => theme.callouts.colorFor kind

/-- The theme with given settings and colours of kinds of tokens. -/
def ofValues
    (values : (setting : Setting) → setting.type.Carrier)
    (colors : List (String × Color)) :
    Theme where
  links := { color := values .linkColor, underline := values .linkUnderline }
  page := { numbers := values .pageNumbers }
  headings := { offset := values .headingOffset }
  code := {
    lineNumbers := values .lineNumbers
    background := values .background
    foreground := values .foreground
    gutter := values .gutter
    label := values .label
    colors := colors }
  callouts := {
    note := values (.callout .note)
    tip := values (.callout .tip)
    important := values (.callout .important)
    warning := values (.callout .warning)
    caution := values (.callout .caution) }

theorem value_ofValues
    (values : (setting : Setting) → setting.type.Carrier)
    (colors : List (String × Color))
    (setting : Setting) :
    (ofValues values colors).value setting = values setting := by
  cases setting with
  | callout kind =>
      cases kind <;> rfl
  | _ =>
      rfl

end Theme

namespace Toml

namespace Value

/-- The entries of a table. -/
def table? : Value → Option Table
  | .table _ entries => some entries
  | _ => none

/-- The entries of a table, or those that a date or a time shows in the place of one. -/
def tableOrDateTime? : Value → Option Table
  | .table _ entries => some entries
  | .dateTime text => some [(dateTimeKey, .string text)]
  | _ => none

/-- A value is an array, written in brackets or as tables under double brackets. -/
def IsArray (value : Value) : Prop :=
  (∃ items, value = .array items) ∨ ∃ items, value = .tables items

theorem section?_eq_tableOrDateTime?
    {value : Value}
    (noArray : ¬ value.IsArray)
    (names : List String) :
    value.section? names = value.tableOrDateTime? := by
  cases value with
  | array items =>
      exact (noArray (.inl ⟨items, rfl⟩)).elim
  | tables items =>
      exact (noArray (.inr ⟨items, rfl⟩)).elim
  | _ =>
      rfl

/-- A table, all of whose entries are texts. -/
def IsTextTable (asTable? : Value → Option Table) (value : Value) : Prop :=
  ∃ entries, asTable? value = some entries ∧
    ∀ entry ∈ entries, ∃ content, entry.2 = .string content

/-- A reader takes a whole list just when it takes each of its values. -/
private theorem exists_mapM_eq_some_iff
    {read? : α → Option β}
    {items : List α} :
    (∃ results, items.mapM read? = some results) ↔
      ∀ item ∈ items, ∃ result, read? item = some result := by
  induction items with
  | nil =>
      simp
  | cons item rest inductionHypothesis =>
      rw [List.forall_mem_cons, ← inductionHypothesis, List.mapM_cons]
      simp only [Option.bind_eq_bind, Option.bind_eq_some_iff, Option.pure_def]
      constructor
      · rintro ⟨_, result, first, results, others, _⟩
        exact ⟨⟨result, first⟩, results, others⟩
      · rintro ⟨⟨result, first⟩, results, others⟩
        exact ⟨result :: results, result, first, results, others, rfl⟩

/-- An entry can be read as a text just when it is one. -/
private theorem exists_map_string?_iff
    {name : String}
    {value : Value} :
    (∃ result, value.string?.map (fun text => (name, text)) = some result) ↔
      ∃ content, value = .string content := by
  cases value <;> simp [string?]

theorem exists_strings?_iff
    {value : Value} :
    (∃ texts, value.strings? = some texts) ↔ value.IsTextTable tableOrDateTime? := by
  cases value with
  | table origin entries =>
      simp only [strings?, exists_mapM_eq_some_iff, exists_map_string?_iff, IsTextTable,
        tableOrDateTime?, Option.some.injEq, exists_eq_left']
  | dateTime text =>
      simp [strings?, IsTextTable, tableOrDateTime?]
  | _ =>
      simp [strings?, IsTextTable, tableOrDateTime?]

end Value

namespace Table

/-- No section of a table is given as an array. -/
def NoSectionIsArray (table : Table) : Prop :=
  ∀ (setting : Setting) (value : Value),
    table.lookup setting.sectionName = some value → ¬ value.IsArray

/--
Every section that a table gives can be read as a table, and every setting that
these give is of its type.
-/
structure WellTyped (asTable? : Value → Option Table) (table : Table) : Prop where
  sections (setting : Setting) :
    (table.sectionEntries? asTable? setting.sectionName).isSome
  settings (setting : Setting) (value : Value) :
    table.entry? asTable? setting.sectionName setting.key = some value →
    ∃ result, value.Says setting.type result
  colors (value : Value) :
    table.entry? asTable? "code" "colors" = some value →
    value.IsTextTable asTable?

/-- A section that is no array can be read as a table whatever its keys are. -/
theorem NoSectionIsArray.opens
    {table : Table}
    (noArray : table.NoSectionIsArray)
    (setting : Setting)
    (keys : List String) :
    table.Opens Value.tableOrDateTime? keys setting.sectionName :=
  fun value given => Value.section?_eq_tableOrDateTime? (noArray setting value given) keys

end Table

end Toml

namespace Theme

/-- A table is read as the theme whose settings are what the table gives, or else the defaults. -/
theorem ofTable?_eq_some_iff
    {table : Table}
    (noArray : table.NoSectionIsArray)
    {theme : Theme} :
    ofTable? table = some theme ↔
      (∀ setting : Setting,
        (table.sectionEntries? Value.tableOrDateTime? setting.sectionName).isSome) ∧
      (∀ setting : Setting,
        Settles setting.type
          (table.entry? Value.tableOrDateTime? setting.sectionName setting.key)
          (({} : Theme).value setting) (theme.value setting)) ∧
      (table.entry? Value.tableOrDateTime? "code" "colors").elim
        (some ({} : CodeStyle).colors) Value.strings? = some theme.code.colors := by
  have links := Table.settings_eq_some_iff (noArray.opens .linkColor LinkStyle.keys)
    LinkStyle.ofEntries?_eq_some_iff rfl theme.links
  have page := Table.settings_eq_some_iff (noArray.opens .pageNumbers PageStyle.keys)
    PageStyle.ofEntries?_eq_some_iff rfl theme.page
  have headings := Table.settings_eq_some_iff (noArray.opens .headingOffset HeadingStyle.keys)
    HeadingStyle.ofEntries?_eq_some_iff rfl theme.headings
  have code := Table.settings_eq_some_iff (noArray.opens .lineNumbers CodeStyle.keys)
    CodeStyle.ofEntries?_eq_some_iff rfl theme.code
  have callouts := Table.settings_eq_some_iff (noArray.opens (.callout .note) CalloutStyle.keys)
    CalloutStyle.ofEntries?_eq_some_iff rfl theme.callouts
  rw [ofTable?]
  simp only [Option.bind_eq_bind, Option.bind_eq_some_iff]
  constructor
  · rintro ⟨_, isLinks, _, isPage, _, isHeadings, _, isCode, _, isCallouts, ⟨⟩⟩
    obtain ⟨linksOpen, linksGiven⟩ := links.mp isLinks
    obtain ⟨pageOpens, pageGiven⟩ := page.mp isPage
    obtain ⟨headingsOpen, headingsGiven⟩ := headings.mp isHeadings
    obtain ⟨codeOpens, codeGiven⟩ := code.mp isCode
    obtain ⟨calloutsOpen, calloutsGiven⟩ := callouts.mp isCallouts
    refine ⟨?_, ?_, codeGiven.colors⟩
    · intro setting
      cases setting with
      | linkColor | linkUnderline => exact linksOpen
      | pageNumbers => exact pageOpens
      | headingOffset => exact headingsOpen
      | lineNumbers | background | foreground | gutter | label => exact codeOpens
      | callout kind => exact calloutsOpen
    · intro setting
      cases setting with
      | linkColor => exact linksGiven.color
      | linkUnderline => exact linksGiven.underline
      | pageNumbers => exact pageGiven.numbers
      | headingOffset => exact headingsGiven.offset
      | lineNumbers => exact codeGiven.lineNumbers
      | background => exact codeGiven.background
      | foreground => exact codeGiven.foreground
      | gutter => exact codeGiven.gutter
      | label => exact codeGiven.label
      | callout kind =>
          cases kind with
          | note => exact calloutsGiven.note
          | tip => exact calloutsGiven.tip
          | important => exact calloutsGiven.important
          | warning => exact calloutsGiven.warning
          | caution => exact calloutsGiven.caution
  · rintro ⟨opens, settles, colors⟩
    have isLinks := links.mpr ⟨opens .linkColor, settles .linkColor, settles .linkUnderline⟩
    have isPage := page.mpr ⟨opens .pageNumbers, ⟨settles .pageNumbers⟩⟩
    have isHeadings := headings.mpr ⟨opens .headingOffset, ⟨settles .headingOffset⟩⟩
    have isCode := code.mpr ⟨opens .lineNumbers, settles .lineNumbers, settles .background,
      settles .foreground, settles .gutter, settles .label, colors⟩
    have isCallouts := callouts.mpr ⟨opens (.callout .note), settles (.callout .note),
      settles (.callout .tip), settles (.callout .important), settles (.callout .warning),
      settles (.callout .caution)⟩
    exact ⟨_, isLinks, _, isPage, _, isHeadings, _, isCode, _, isCallouts, rfl⟩

/-- A table is read as a theme just when all that it gives for one is of the right type. -/
theorem exists_ofTable?_iff
    {table : Table}
    (noArray : table.NoSectionIsArray) :
    (∃ theme, ofTable? table = some theme) ↔ table.WellTyped Value.tableOrDateTime? := by
  constructor
  · rintro ⟨theme, read⟩
    obtain ⟨sections, settles, colors⟩ := (ofTable?_eq_some_iff noArray).mp read
    refine ⟨sections, ?_, ?_⟩
    · intro setting value given
      have settled := settles setting
      rw [given] at settled
      exact ⟨theme.value setting, settled⟩
    · intro value given
      rw [given] at colors
      exact Value.exists_strings?_iff.mp ⟨theme.code.colors, colors⟩
  · intro typed
    have settled (setting : Setting) :
        ∃ result, Settles setting.type
          (table.entry? Value.tableOrDateTime? setting.sectionName setting.key)
          (({} : Theme).value setting) result := by
      cases given : table.entry? Value.tableOrDateTime? setting.sectionName setting.key with
      | none =>
          exact ⟨_, rfl⟩
      | some value =>
          exact typed.settings setting value given
    have colored :
        ∃ colors, (table.entry? Value.tableOrDateTime? "code" "colors").elim
          (some ({} : CodeStyle).colors) Value.strings? = some colors := by
      cases given : table.entry? Value.tableOrDateTime? "code" "colors" with
      | none =>
          exact ⟨_, rfl⟩
      | some value =>
          exact Value.exists_strings?_iff.mpr (typed.colors value given)
    choose values isValue using settled
    obtain ⟨colors, areColors⟩ := colored
    refine ⟨ofValues values colors, (ofTable?_eq_some_iff noArray).mpr ?_⟩
    refine ⟨typed.sections, ?_, areColors⟩
    intro setting
    rw [value_ofValues]
    exact isValue setting

section Loading

variable
    {document? : Text → Option Table}
    {content : Except ReadFailure ByteArray}
    {text : Text}

/-- Whether a file that can be read as text is loaded, hangs on its table alone. -/
theorem loadBy_of_readable
    (path : String)
    (readable : (content >>= decodeText) = .ok text) :
    loadBy document? path content =
      match (document? text).bind ofTable? with
      | none => .error (.malformed path)
      | some theme => .ok theme := by
  rw [loadBy, readable]
  rfl

/--
A theme file that can be read, none of whose sections is an array, is refused just
when it is no TOML or when a section or a setting in it is of the wrong type.  Else
each setting of the theme is what the file gives, or its default where the file
gives nothing, whatever else the file holds.  So it is with every reader of TOML.
-/
theorem load_overrides
    (path : String)
    (readable : (content >>= decodeText) = .ok text)
    (noArray : ∀ table, document? text = some table → table.NoSectionIsArray) :
    (loadBy document? path content = .error (.malformed path) ↔
        document? text = none ∨
          ∃ table, document? text = some table ∧
            ¬ table.WellTyped Value.tableOrDateTime?) ∧
      ∀ table,
        document? text = some table →
        table.WellTyped Value.tableOrDateTime? →
        ∃ theme, loadBy document? path content = .ok theme ∧
          ∀ setting : Setting,
            Settles setting.type
              (table.entry? Value.tableOrDateTime? setting.sectionName setting.key)
              (({} : Theme).value setting) (theme.value setting) := by
  rw [loadBy_of_readable path readable]
  cases isTable : document? text with
  | none =>
      simp
  | some table =>
      have isRead := exists_ofTable?_iff (noArray table isTable)
      simp only [Option.bind_some, Option.some.injEq, reduceCtorEq, false_or, exists_eq_left',
        forall_eq']
      cases read : ofTable? table with
      | none =>
          have illTyped : ¬ table.WellTyped Value.tableOrDateTime? := by
            rw [← isRead, read]
            simp
          simp [illTyped]
      | some theme =>
          have typed := isRead.mp ⟨theme, read⟩
          have settles := ((ofTable?_eq_some_iff (noArray table isTable)).mp read).2.1
          simp [typed, settles]

end Loading

/-- What a file gives replaces a default, and an unknown key does nothing. -/
theorem load_overrides_numbers :
    ((.ok "page = \x7bnumbers=true,x=[]\x7d".toUTF8 : Except ReadFailure ByteArray) >>=
        decodeText) = .ok "page = \x7bnumbers=true,x=[]\x7d".toList ∧
      ∃ theme,
        load "theme.toml" (.ok "page = \x7bnumbers=true,x=[]\x7d".toUTF8) = .ok theme ∧
          theme.page.numbers = true ∧ theme.links.color = "#1a4f8b" := by
  have readable := decodeText_toUTF8 "page = \x7bnumbers=true,x=[]\x7d"
  have isTable :
      document? "page = \x7bnumbers=true,x=[]\x7d".toList =
        some [("page", .table .inline [("numbers", .boolean true), ("x", .array [])])] := by
    cbv
  have noArray :
      ∀ table, document? "page = \x7bnumbers=true,x=[]\x7d".toList = some table →
        table.NoSectionIsArray := by
    rw [isTable]
    rintro _ ⟨⟩ setting value given
    cases setting with
    | pageNumbers =>
        cases given
        simp [Value.IsArray]
    | _ =>
        cases given
  have typed :
      Table.WellTyped Value.tableOrDateTime?
        [("page", .table .inline [("numbers", .boolean true), ("x", .array [])])] := by
    refine ⟨fun setting => by cases setting <;> rfl, ?_, ?_⟩
    · intro setting value given
      cases setting with
      | pageNumbers =>
          cases given
          exact ⟨true, .switch true⟩
      | _ =>
          cases given
    · intro value given
      cases given
  obtain ⟨theme, loaded, settles⟩ :=
    (load_overrides "theme.toml" readable noArray).2 _ isTable typed
  refine ⟨readable, theme, loaded, ?_, settles .linkColor⟩
  have numbers := Value.boolean?_eq_some_iff.mpr (settles .pageNumbers)
  exact (Option.some.inj numbers).symm

/-- A date in the place of the colours of kinds of tokens is no table, and yet it is taken. -/
theorem not_load_overrides_dateTime :
    ¬ ∀ (path : String) (content : Except ReadFailure ByteArray) (text : Text),
      (content >>= decodeText) = .ok text →
      (∀ table, document? text = some table → table.NoSectionIsArray) →
      (load path content = .error (.malformed path) ↔
        document? text = none ∨
          ∃ table, document? text = some table ∧ ¬ table.WellTyped Value.table?) := by
  intro refuses
  have isTable :
      document? "code.colors = 1979-05-27T07:32".toList =
        some [("code", .table .dotted [("colors", .dateTime "1979-05-27T07:32:00")])] := by
    cbv
  have readable := decodeText_toUTF8 "code.colors = 1979-05-27T07:32"
  have noArray :
      ∀ table, document? "code.colors = 1979-05-27T07:32".toList = some table →
        table.NoSectionIsArray := by
    rw [isTable]
    rintro _ ⟨⟩ setting value given
    cases setting with
    | lineNumbers | background | foreground | gutter | label =>
        cases given
        simp [Value.IsArray]
    | _ =>
        cases given
  have illTyped :
      ¬ Table.WellTyped Value.table?
        [("code", .table .dotted [("colors", .dateTime "1979-05-27T07:32:00")])] := by
    intro typed
    obtain ⟨entries, isTable, -⟩ := typed.colors _ rfl
    cases isTable
  have refused := (refuses "theme.toml" _ _ readable noArray).mpr (.inr ⟨_, isTable, illTyped⟩)
  rw [load, loadBy_of_readable "theme.toml" readable, isTable] at refused
  cases refused

end Theme

end Guidebook
