import Guidebook.Proofs.Theme.Overrides

namespace Guidebook

/-!
# The colours of kinds of tokens

A file that gives no table of colours leaves every kind of token its default colour.
A table of colours is taken as a whole: a kind that has no entry in it has the colour
of other text, and not the default colour of its own.
-/

open Toml

/-- The colours that a file gives kinds of tokens, when it gives a table of them. -/
def Toml.Table.tokenColors? (table : Table) : Option (List (String × Color)) :=
  (table.entry? (Value.section? CodeStyle.keys) "code" "colors").bind Value.strings?

/-- The colour that a file gives a kind of token. -/
def Toml.Table.tokenColor? (table : Table) (kind : TokenKind) : Option Color :=
  table.tokenColors?.bind fun colors => colors.lookup kind.name

namespace Theme

/-- The colours of a theme are those of the table that is given for them, or the default ones. -/
theorem colors_of_ofTable?
    {table : Table}
    {theme : Theme}
    (read : ofTable? table = some theme) :
    theme.code.colors = table.tokenColors?.getD ({} : CodeStyle).colors := by
  rw [ofTable?] at read
  simp only [Option.bind_eq_bind, Option.bind_eq_some_iff] at read
  obtain ⟨_, -, _, -, _, -, code, isCode, _, -, ⟨⟩⟩ := read
  have opens : table.Opens (Value.section? CodeStyle.keys) CodeStyle.keys "code" :=
    fun _ _ => rfl
  have colors := ((Table.settings_eq_some_iff opens CodeStyle.ofEntries?_eq_some_iff rfl code).mp
    isCode).2.colors
  rw [Table.tokenColors?]
  cases given : table.entry? (Value.section? CodeStyle.keys) "code" "colors" with
  | none =>
      rw [given] at colors
      exact (Option.some.inj colors).symm
  | some value =>
      rw [given] at colors
      rw [Option.bind_some, show value.strings? = some code.colors from colors, Option.getD_some]

/-- A theme that is loaded comes from the table of a file that can be read. -/
theorem exists_table_of_loadBy
    {document? : Text → Option Table}
    {path : String}
    {content : Except ReadFailure ByteArray}
    {theme : Theme}
    (loaded : loadBy document? path content = .ok theme) :
    ∃ text table,
      (content >>= decodeText) = .ok text ∧ document? text = some table ∧
        ofTable? table = some theme := by
  rw [loadBy] at loaded
  split at loaded
  · cases loaded
  · next text readable =>
      split at loaded
      · cases loaded
      · next theme' read =>
          cases loaded
          rw [ofTextBy?, Option.bind_eq_some_iff] at read
          obtain ⟨table, isTable, read⟩ := read
          exact ⟨text, table, readable, isTable, read⟩

/--
A kind of token has the colour that the file gives it.  Where the file gives a table
of colours without an entry for the kind, it has the colour of other text; so it keeps
its default colour just when the file has no such table, or that colour is the same.
So it is with every reader of TOML.
-/
theorem colorFor_of_load
    {document? : Text → Option Table}
    {path : String}
    {content : Except ReadFailure ByteArray}
    {theme : Theme}
    (loaded : loadBy document? path content = .ok theme) :
    ∃ text table,
      (content >>= decodeText) = .ok text ∧ document? text = some table ∧
        ∀ kind : TokenKind,
          (∀ color, table.tokenColor? kind = some color → theme.code.colorFor kind = color) ∧
          (table.tokenColor? kind = none → table.tokenColors?.isSome →
            theme.code.colorFor kind = theme.code.foreground) ∧
          (table.tokenColor? kind = none →
            (theme.code.colorFor kind = ({} : CodeStyle).colorFor kind ↔
              table.tokenColors? = none ∨
                theme.code.foreground = ({} : CodeStyle).colorFor kind)) := by
  obtain ⟨text, table, readable, isTable, read⟩ := exists_table_of_loadBy loaded
  refine ⟨text, table, readable, isTable, ?_⟩
  intro kind
  have colors := colors_of_ofTable? read
  rw [Table.tokenColor?, CodeStyle.colorFor, colors]
  cases table.tokenColors? with
  | none =>
      -- Every kind has a default colour, so no fallback is needed.
      refine ⟨by simp, by simp, fun _ => iff_of_true ?_ (.inl rfl)⟩
      cases kind <;> rfl
  | some given =>
      simp only [Option.bind_some, Option.getD_some, Option.isSome_some, reduceCtorEq, false_or,
        forall_true_left]
      refine ⟨?_, ?_, ?_⟩
      · intro color isGiven
        rw [isGiven, Option.getD_some]
      · intro noEntry
        rw [noEntry, Option.getD_none]
      · intro noEntry
        rw [noEntry, Option.getD_none]

/-- A file that gives nothing but a colour of keywords, as a table and as a theme. -/
private theorem document?_and_load_keyword :
    document? "[code.colors]\nkeyword = \"#000000\"".toList =
        some [("code", .table .implied
          [("colors", .table .header [("keyword", .string "#000000")])])] ∧
      load "theme.toml" (.ok "[code.colors]\nkeyword = \"#000000\"".toUTF8) =
        .ok { code := { colors := [("keyword", "#000000")] } } := by
  have isTable :
      document? "[code.colors]\nkeyword = \"#000000\"".toList =
        some [("code", .table .implied
          [("colors", .table .header [("keyword", .string "#000000")])])] := by
    cbv
  refine ⟨isTable, ?_⟩
  rw [load, loadBy_of_readable "theme.toml" (decodeText_toUTF8 _), isTable]
  rfl

/-- A file that gives keywords a colour has them in it, and comments like other text. -/
theorem colorFor_of_load_keyword :
    ∃ theme,
      load "theme.toml" (.ok "[code.colors]\nkeyword = \"#000000\"".toUTF8) = .ok theme ∧
        theme.code.colorFor .keyword = "#000000" ∧
        theme.code.colorFor .comment = theme.code.foreground := by
  obtain ⟨isTable, loaded⟩ := document?_and_load_keyword
  obtain ⟨text, table, readable, isTable', colors⟩ := colorFor_of_load loaded
  rw [decodeText_toUTF8] at readable
  cases readable
  rw [isTable] at isTable'
  cases isTable'
  exact ⟨_, loaded, (colors .keyword).1 _ rfl, (colors .comment).2.1 rfl rfl⟩

/-- A colour for one kind of token takes their default colours from the others. -/
theorem not_colorFor_of_load_keeps_default :
    ¬ ∀ (path : String) (content : Except ReadFailure ByteArray) (text : Text) (table : Table)
        (theme : Theme) (kind : TokenKind),
      (content >>= decodeText) = .ok text →
      document? text = some table →
      load path content = .ok theme →
      theme.code.colorFor kind =
        (table.tokenColor? kind).getD (({} : CodeStyle).colorFor kind) := by
  intro keeps
  obtain ⟨isTable, loaded⟩ := document?_and_load_keyword
  have kept := keeps "theme.toml" _ _ _ _ .comment (decodeText_toUTF8 _) isTable loaded
  exact absurd kept (by decide)

end Theme

end Guidebook
