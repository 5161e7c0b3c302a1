import Guidebook.Theme.Loading
import Mathlib.Tactic.MkIffOfInductiveProp
import Mathlib.Tactic.Simproc.ExistsAndEq

namespace Guidebook

/-!
# The settings of a theme

A setting is told by the section that it stands in and by its key, and its type
is that of a text, of a switch or of a small number.  A table is read as a theme
just when all its sections can be read as tables and every setting that they give
is of its type; each setting is then what its section gives, or else its default.
-/

namespace Toml

/-- The types of settings. -/
inductive ScalarType where
  | text
  | switch
  | small
  deriving Repr, DecidableEq

/-- What a setting of some type can be. -/
abbrev ScalarType.Carrier : ScalarType → Type
  | .text => String
  | .switch => Bool
  | .small => Nat

/-- A value says what a setting of some type is; small numbers go up to 255. -/
inductive Value.Says : (type : ScalarType) → Value → type.Carrier → Prop where
  | text (content : String) :
      Says .text (.string content) content
  | switch (isOn : Bool) :
      Says .switch (.boolean isOn) isOn
  | small (count : Nat) (isSmall : count ≤ 255) :
      Says .small (.integer count) count

/-- A setting is what the value that is given for it says, or its default when none is given. -/
def Settles (type : ScalarType) (given : Option Value) (default result : type.Carrier) : Prop :=
  match given with
  | none => result = default
  | some value => value.Says type result

/-- Only a text is read as the text it is. -/
theorem Value.string?_eq_some_iff
    {value : Value}
    {content : String} :
    value.string? = some content ↔ value.Says .text content := by
  constructor
  · intro read
    cases value with
    | string =>
        cases read
        exact .text content
    | _ =>
        cases read
  · rintro ⟨⟩
    rfl

/-- Only a switch is read as on or off. -/
theorem Value.boolean?_eq_some_iff
    {value : Value}
    {isOn : Bool} :
    value.boolean? = some isOn ↔ value.Says .switch isOn := by
  constructor
  · intro read
    cases value with
    | boolean =>
        cases read
        exact .switch isOn
    | _ =>
        cases read
  · rintro ⟨⟩
    rfl

/-- Only a whole number from 0 to 255 is read as a small number. -/
theorem Value.byte?_eq_some_iff
    {value : Value}
    {count : Nat} :
    value.byte? = some count ↔ value.Says .small count := by
  constructor
  · intro read
    cases value with
    | integer number =>
        rw [Value.byte?, Option.ite_none_right_eq_some, Option.some.injEq] at read
        obtain ⟨⟨nonnegative, isSmall⟩, rfl⟩ := read
        have whole : ((number.toNat : Nat) : Int) = number := Int.toNat_of_nonneg nonnegative
        rw [← whole, Int.toNat_natCast]
        exact .small _ (by omega)
    | _ =>
        cases read
  · rintro ⟨⟩
    next isSmall =>
      rw [Value.byte?, if_pos (by omega), Int.toNat_natCast]

namespace Table

section Settling

variable
    {table : Table}
    {name : String}

/-- A reader of settings takes just the values that say what it reads. -/
theorem setting_eq_some_iff
    (type : ScalarType)
    {read? : Value → Option type.Carrier}
    (reads : ∀ {value result}, read? value = some result ↔ value.Says type result)
    {default result : type.Carrier} :
    table.setting name read? default = some result ↔
      Settles type (table.lookup name) default result := by
  cases given : table.lookup name with
  | none =>
      simp only [setting, given, Settles, Option.some.injEq]
      exact eq_comm
  | some value =>
      simp only [setting, given, Settles]
      exact reads

theorem setting_string?_eq_some_iff
    {default result : String} :
    table.setting name Value.string? default = some result ↔
      Settles .text (table.lookup name) default result :=
  setting_eq_some_iff .text Value.string?_eq_some_iff

theorem setting_boolean?_eq_some_iff
    {default result : Bool} :
    table.setting name Value.boolean? default = some result ↔
      Settles .switch (table.lookup name) default result :=
  setting_eq_some_iff .switch Value.boolean?_eq_some_iff

theorem setting_byte?_eq_some_iff
    {default result : Nat} :
    table.setting name Value.byte? default = some result ↔
      Settles .small (table.lookup name) default result :=
  setting_eq_some_iff .small Value.byte?_eq_some_iff

end Settling

/-- A setting is its default or what is read of the value that is given. -/
theorem setting_eq_elim
    (table : Table)
    (name : String)
    (read? : Value → Option α)
    (default : α) :
    table.setting name read? default = (table.lookup name).elim (some default) read? := by
  rw [setting]
  cases table.lookup name <;> rfl

/--
The entries of a section of a table, when a value that is given for it can be
read as a table; a section that is not given has none.
-/
def sectionEntries? (asTable? : Value → Option Table) (table : Table) (name : String) :
    Option Table :=
  match table.lookup name with
  | none => some []
  | some value => asTable? value

/-- The value that a table gives a key of one of its sections. -/
def entry? (asTable? : Value → Option Table) (table : Table) (name key : String) :
    Option Value :=
  (table.sectionEntries? asTable? name).bind fun entries => entries.lookup key

/-- The value that is given for a section with some keys can be read as a table in one way. -/
def Opens
    (asTable? : Value → Option Table)
    (keys : List String)
    (table : Table)
    (name : String) :
    Prop :=
  ∀ value, table.lookup name = some value → value.section? keys = asTable? value

/--
The settings of a section are what its entries make them, when a section without any
entries makes them the defaults.
-/
theorem settings_eq_some_iff
    {asTable? : Value → Option Table}
    {keys : List String}
    {table : Table}
    {name : String}
    (opens : table.Opens asTable? keys name)
    {ofEntries? : Table → Option α}
    {IsGivenBy : (String → Option Value) → α → Prop}
    (reads : ∀ {entries : Table} (result : α),
      ofEntries? entries = some result ↔ IsGivenBy (fun key => entries.lookup key) result)
    {default : α}
    (readsEmpty : ofEntries? [] = some default)
    (result : α) :
    table.settings name keys ofEntries? default = some result ↔
      (table.sectionEntries? asTable? name).isSome ∧
        IsGivenBy (table.entry? asTable? name) result := by
  have opened : table.settings name keys ofEntries? default =
      (table.sectionEntries? asTable? name).bind ofEntries? := by
    rw [settings, setting, sectionEntries?]
    cases given : table.lookup name with
    | none =>
        exact readsEmpty.symm
    | some value =>
        simp only [opens value given]
  rw [opened]
  cases found : table.sectionEntries? asTable? name with
  | none =>
      simp
  | some entries =>
      have looksUp : table.entry? asTable? name = fun key => entries.lookup key := by
        funext key
        rw [Table.entry?, found, Option.bind_some]
      rw [Option.bind_some, reads, looksUp]
      simp

end Table

end Toml

open Toml

section Sections

variable {entries : Table}

/-- A look of links settles what is given for its keys. -/
@[mk_iff]
structure LinkStyle.IsGivenBy
    (given : String → Option Value)
    (style : LinkStyle) :
    Prop where
  color : Settles .text (given "color") ({} : LinkStyle).color style.color
  underline : Settles .switch (given "underline") ({} : LinkStyle).underline style.underline

/-- Entries are read as a look of links just when they give each of its settings. -/
theorem LinkStyle.ofEntries?_eq_some_iff
    (style : LinkStyle) :
    ofEntries? entries = some style ↔ style.IsGivenBy fun key => entries.lookup key := by
  obtain ⟨color, underline⟩ := style
  simp only [isGivenBy_iff, ← Table.setting_string?_eq_some_iff,
    ← Table.setting_boolean?_eq_some_iff, ofEntries?, Option.bind_eq_bind, Option.bind_eq_some_iff,
    Option.pure_def, Option.some.injEq, mk.injEq, existsAndEq, and_true]

/-- A look of pages settles what is given for its key. -/
@[mk_iff]
structure PageStyle.IsGivenBy
    (given : String → Option Value)
    (style : PageStyle) :
    Prop where
  numbers : Settles .switch (given "numbers") ({} : PageStyle).numbers style.numbers

/-- Entries are read as a look of pages just when they give its setting. -/
theorem PageStyle.ofEntries?_eq_some_iff
    (style : PageStyle) :
    ofEntries? entries = some style ↔ style.IsGivenBy fun key => entries.lookup key := by
  obtain ⟨numbers⟩ := style
  simp only [isGivenBy_iff, ← Table.setting_boolean?_eq_some_iff, ofEntries?, Option.bind_eq_bind,
    Option.bind_eq_some_iff, Option.pure_def, Option.some.injEq, mk.injEq, existsAndEq, and_true]

/-- A look of headings settles what is given for its key. -/
@[mk_iff]
structure HeadingStyle.IsGivenBy
    (given : String → Option Value)
    (style : HeadingStyle) :
    Prop where
  offset : Settles .small (given "offset") ({} : HeadingStyle).offset style.offset

/-- Entries are read as a look of headings just when they give its setting. -/
theorem HeadingStyle.ofEntries?_eq_some_iff
    (style : HeadingStyle) :
    ofEntries? entries = some style ↔ style.IsGivenBy fun key => entries.lookup key := by
  obtain ⟨offset⟩ := style
  simp only [isGivenBy_iff, ← Table.setting_byte?_eq_some_iff, ofEntries?, Option.bind_eq_bind,
    Option.bind_eq_some_iff, Option.pure_def, Option.some.injEq, mk.injEq, existsAndEq, and_true]

/-- A look of code settles what is given for its keys; its colours are those of one table. -/
@[mk_iff]
structure CodeStyle.IsGivenBy
    (given : String → Option Value)
    (style : CodeStyle) :
    Prop where
  lineNumbers :
    Settles .switch (given "line_numbers") ({} : CodeStyle).lineNumbers style.lineNumbers
  background : Settles .text (given "background") ({} : CodeStyle).background style.background
  foreground : Settles .text (given "foreground") ({} : CodeStyle).foreground style.foreground
  gutter : Settles .text (given "gutter") ({} : CodeStyle).gutter style.gutter
  label : Settles .text (given "label") ({} : CodeStyle).label style.label
  colors :
    (given "colors").elim (some ({} : CodeStyle).colors) Value.strings? = some style.colors

/-- Entries are read as a look of code just when they give each of its settings. -/
theorem CodeStyle.ofEntries?_eq_some_iff
    (style : CodeStyle) :
    ofEntries? entries = some style ↔ style.IsGivenBy fun key => entries.lookup key := by
  obtain ⟨lineNumbers, background, foreground, gutter, label, colors⟩ := style
  simp only [isGivenBy_iff, ← Table.setting_string?_eq_some_iff,
    ← Table.setting_boolean?_eq_some_iff, ← Table.setting_eq_elim, ofEntries?, Option.bind_eq_bind,
    Option.bind_eq_some_iff, Option.pure_def, Option.some.injEq, mk.injEq, existsAndEq, and_true]

/-- The colours of admonitions settle what is given for their keys. -/
@[mk_iff]
structure CalloutStyle.IsGivenBy
    (given : String → Option Value)
    (style : CalloutStyle) :
    Prop where
  note : Settles .text (given "note") ({} : CalloutStyle).note style.note
  tip : Settles .text (given "tip") ({} : CalloutStyle).tip style.tip
  important : Settles .text (given "important") ({} : CalloutStyle).important style.important
  warning : Settles .text (given "warning") ({} : CalloutStyle).warning style.warning
  caution : Settles .text (given "caution") ({} : CalloutStyle).caution style.caution

/-- Entries are read as colours of admonitions just when they give each of them. -/
theorem CalloutStyle.ofEntries?_eq_some_iff
    (style : CalloutStyle) :
    ofEntries? entries = some style ↔ style.IsGivenBy fun key => entries.lookup key := by
  obtain ⟨note, tip, important, warning, caution⟩ := style
  simp only [isGivenBy_iff, ← Table.setting_string?_eq_some_iff, ofEntries?, Option.bind_eq_bind,
    Option.bind_eq_some_iff, Option.pure_def, Option.some.injEq, mk.injEq, existsAndEq, and_true]

end Sections

namespace Theme

/-- The theme file that is shipped can be read, and gives each setting its default. -/
theorem ofTextBy?_shippedText :
    ofTextBy? Toml.document? shippedText = some {} := by
  decide +kernel

/-- A guide for which no file is given has the default of every setting. -/
theorem shipped_eq_default :
    shipped = {} := by
  rw [shipped, ofTextBy?_shippedText, Option.getD_some]

end Theme

end Guidebook
