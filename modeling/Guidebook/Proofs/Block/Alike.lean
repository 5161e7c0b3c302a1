import Guidebook.Block.Reading
import Guidebook.Proofs.Text.Lines

namespace Guidebook

/-!
# Lines that are read alike

Outside of fenced code a line is read by its text without the blanks around it, and
an item also by its indent.  So lines that agree in these are read alike, and blanks
at the end of a line never count.
-/

/-- A line of blanks is told to be blank. -/
theorem LineKind.of_eq_blank
    {line : Line}
    (blank : line.isBlankLine) :
    of line = .blank := by
  rw [of, Text.trim_eq_nil_iff.mpr blank]
  rfl

/-- Two lines with the same text between blanks, and with the same indent if they are items. -/
structure Alike (line other : Line) : Prop where
  sameText :
    other.trim = line.trim
  sameIndent :
    ∀ ordered body, LineKind.of line = .item ordered body → other.indent = line.indent

namespace Alike

variable {line other : Line}

theorem refl
    (line : Line) :
    Alike line line :=
  ⟨rfl, fun _ _ _ => rfl⟩

/-- Alike lines are of the same kind. -/
theorem sameKind
    (alike : Alike line other) :
    LineKind.of other = LineKind.of line :=
  congrArg LineKind.ofTrimmed alike.sameText

/-- Alike lines are both blank or both not. -/
theorem sameBlank
    (alike : Alike line other) :
    other.isBlankLine = line.isBlankLine := by
  rw [Bool.eq_iff_iff, ← Text.trim_eq_nil_iff, ← Text.trim_eq_nil_iff, alike.sameText]

/-- Blanks at the end make no difference to a line. -/
theorem of_append_blanks
    (line : Line)
    {blanks : Text}
    (blank : blanks.isBlankLine) :
    Alike (line ++ blanks) line where
  sameText := (line.trim_append_of_blank blank).symm
  sameIndent := by
    intro ordered body isItem
    have solid : ¬ line.isBlankLine := by
      intro lineBlank
      have wholeBlank : (line ++ blanks).isBlankLine := by
        simp [lineBlank, blank]
      simp [LineKind.of_eq_blank wholeBlank] at isItem
    exact (Text.indent_append solid blanks).symm

end Alike

/-- A reading of a line that alike lines share. -/
def SeesAlike (reading : Line → α) : Prop :=
  ∀ line other, Alike line other → reading other = reading line

/-- A reading that alike lines share does not see blanks at the end of a line. -/
theorem SeesAlike.ignoresBlanksBehind
    {reading : Line → α}
    (sees : SeesAlike reading) :
    IgnoresBlanksBehind reading :=
  fun line blanks _ blank => (sees (line ++ blanks) line (.of_append_blanks line blank)).symm

theorem seesAlike_trim :
    SeesAlike Text.trim :=
  fun _ _ alike => alike.sameText

/-- Alike lines share their kind, as a reading. -/
theorem seesAlike_of :
    SeesAlike LineKind.of :=
  fun _ _ alike => alike.sameKind

/-- Whether a line carries on a paragraph, and with what text, is the same for alike lines. -/
theorem seesAlike_prose? :
    SeesAlike prose? := by
  intro line other alike
  rw [prose?, prose?, alike.sameKind, alike.sameText]

/-- What a line quotes is the same for alike lines. -/
theorem seesAlike_quoted? :
    SeesAlike quoted? := by
  intro line other alike
  rw [quoted?, quoted?, alike.sameKind]

theorem seesAlike_cells? :
    SeesAlike cells? := by
  intro line other alike
  rw [cells?, cells?, alike.sameKind]

/--
The entry on a line is the same for alike lines, since those that are items share their
indent.
-/
theorem seesAlike_entryOf?
    (base : Nat) :
    SeesAlike (entryOf? base) := by
  intro line other alike
  rw [entryOf?, entryOf?, alike.sameKind]
  cases kind : LineKind.of line with
  | item ordered body =>
      simp only [alike.sameIndent ordered body kind]
  | blank | heading | rule | row | quote | fence | command | prose =>
      rfl

/-- What a line begins in front of some lines, alike lines begin there too. -/
theorem Block.seesAlike_take
    (rest : List Line) :
    SeesAlike (take · rest) := by
  intro line other alike
  cases kind : LineKind.of line with
  | item ordered body =>
      simp only [take, alike.sameKind, kind, alike.sameIndent ordered body kind]
  | prose | row =>
      simp only [take, takeParagraph, alike.sameKind, kind, alike.sameText]
  | blank | heading | rule | quote | fence | command =>
      simp only [take, alike.sameKind, kind]

end Guidebook
