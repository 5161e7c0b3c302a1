import Guidebook.Proofs.Span.Depth
import Guidebook.Proofs.Span.MatchedStars
import Guidebook.Proofs.Span.Writing
import Mathlib.Data.List.Nodup
import Mathlib.Data.List.Perm.Subperm

namespace Guidebook

/-!
# Canonical spans

Spans are canonical when nothing in them gets in the way of the delimiters that they
are written with: their texts show no markup, neighbours do not run together, and no
span stands inside another one that ends with the same closer.  So a closer that is
awaited is nowhere in what is written before it, and the only stars in a bold stretch
are those of the italics in it, and the other way round.
-/

/-- The characters that stand for something in inline markup. -/
def markupCharacters : List Char :=
  ['*', '~', '\x60', '[', ']', '(', ')', '!']

/-- A text of at least one character, none of which stands for something in markup. -/
structure IsPlain (content : String) : Prop where
  nonempty : content ≠ ""
  unmarked : ∀ character ∈ content.toList, character ∉ markupCharacters

/-- No mark stands in plain text. -/
theorem IsPlain.not_mem
    {content : String}
    (plain : IsPlain content)
    {character : Char}
    (isMarkup : character ∈ markupCharacters) :
    character ∉ content.toList :=
  fun member => plain.unmarked character member isMarkup

theorem IsPlain.toList_ne_nil
    {content : String}
    (plain : IsPlain content) :
    content.toList ≠ [] :=
  fun isNil => plain.nonempty (String.toList_eq_nil_iff.mp isNil)

/-- Whether a text is plain can be told character by character. -/
theorem isPlain_iff
    {content : String} :
    IsPlain content ↔
      content ≠ "" ∧ content.toList.all fun character => !markupCharacters.contains character := by
  simp only [List.all_eq_true, Bool.not_eq_true', List.contains_eq_mem, decide_eq_false_iff_not]
  exact ⟨fun plain => ⟨plain.nonempty, plain.unmarked⟩, fun ⟨nonempty, unmarked⟩ =>
    ⟨nonempty, unmarked⟩⟩

instance : DecidablePred IsPlain :=
  fun _ => decidable_of_iff' _ isPlain_iff

/-- Whether a span is written between stars. -/
def Span.isStarred : Span → Bool
  | .bold _ => true
  | .italic _ => true
  | _ => false

mutual

/--
A span that does not get in the way of the delimiters around it and inside it: its texts
are plain, its content is not empty, stars do not start right behind its own stars, and
its closer is none of those that the spans around it end with.
-/
def Span.Canonical (around : List Closer) : Span → Prop
  | .text content => IsPlain content
  | .bold content =>
      .doubleStar ∉ around ∧ content ≠ [] ∧ ¬ content.head?.any Span.isStarred ∧
        Span.CanonicalAll (.doubleStar :: around) content
  | .italic content =>
      .star ∉ around ∧ content ≠ [] ∧ ¬ content.head?.any Span.isStarred ∧
        Span.CanonicalAll (.star :: around) content
  | .strikethrough content =>
      .doubleTilde ∉ around ∧ content ≠ [] ∧ Span.CanonicalAll (.doubleTilde :: around) content
  | .code content => IsPlain content
  | .link url content =>
      .target ∉ around ∧ IsPlain url ∧ content ≠ [] ∧
        Span.CanonicalAll (.target :: around) content
  | .image alt url => .target ∉ around ∧ IsPlain alt ∧ IsPlain url

/-- Canonical spans, of which no two texts and no two starred ones stand side by side. -/
def Span.CanonicalAll (around : List Closer) : List Span → Prop
  | [] => True
  | span :: rest =>
      span.Canonical around ∧ (span.isText → ¬ rest.head?.any Span.isText) ∧
        (span.isStarred → ¬ rest.head?.any Span.isStarred) ∧ Span.CanonicalAll around rest

end

mutual

/-- Whether a span is canonical can be computed. -/
def Span.decidableCanonical (around : List Closer) :
    (span : Span) → Decidable (span.Canonical around)
  | .text content => inferInstanceAs (Decidable (IsPlain content))
  | .bold content =>
      have := Span.decidableCanonicalAll (.doubleStar :: around) content
      inferInstanceAs (Decidable (_ ∧ _ ∧ _ ∧ _))
  | .italic content =>
      have := Span.decidableCanonicalAll (.star :: around) content
      inferInstanceAs (Decidable (_ ∧ _ ∧ _ ∧ _))
  | .strikethrough content =>
      have := Span.decidableCanonicalAll (.doubleTilde :: around) content
      inferInstanceAs (Decidable (_ ∧ _ ∧ _))
  | .code content => inferInstanceAs (Decidable (IsPlain content))
  | .link _ content =>
      have := Span.decidableCanonicalAll (.target :: around) content
      inferInstanceAs (Decidable (_ ∧ _ ∧ _ ∧ _))
  | .image alt url => inferInstanceAs (Decidable (_ ∧ IsPlain alt ∧ IsPlain url))

/-- Whether spans are canonical can be computed. -/
def Span.decidableCanonicalAll (around : List Closer) :
    (spans : List Span) → Decidable (Span.CanonicalAll around spans)
  | [] => .isTrue trivial
  | span :: rest =>
      have := Span.decidableCanonical around span
      have := Span.decidableCanonicalAll around rest
      inferInstanceAs (Decidable (_ ∧ _ ∧ _ ∧ _))

end

instance (around : List Closer) : DecidablePred (Span.CanonicalAll around) :=
  Span.decidableCanonicalAll around

/-! ## Depth -/

/-- All closers. -/
def Closer.all : List Closer :=
  [.target, .backtick, .doubleStar, .star, .doubleTilde]

theorem Closer.mem_all
    (closer : Closer) :
    closer ∈ all := by
  cases closer <;> decide

/-- Only so many stretches can stand one inside the other as there are closers. -/
theorem Closer.length_le_of_nodup
    {closers : List Closer}
    (nodup : closers.Nodup) :
    closers.length ≤ all.length :=
  (List.subperm_of_subset nodup fun closer _ => mem_all closer).length_le

mutual

/-- Each closer around a span leaves one level less for the spans inside. -/
theorem Span.Canonical.depth_add_length_le
    {around : List Closer}
    (nodup : around.Nodup)
    (span : Span)
    (canonical : span.Canonical around) :
    span.depth + around.length ≤ Closer.all.length := by
  cases span with
  | text | code | image =>
      rw [Span.depth, Nat.zero_add]
      exact Closer.length_le_of_nodup nodup
  | bold content | italic content | link _ content =>
      obtain ⟨isNew, _, _, inside⟩ := canonical
      have bound := Span.CanonicalAll.depthAll_add_length_le (nodup.cons isNew) content inside
      rw [List.length_cons] at bound
      rw [Span.depth]
      omega
  | strikethrough content =>
      obtain ⟨isNew, _, inside⟩ := canonical
      have bound := Span.CanonicalAll.depthAll_add_length_le (nodup.cons isNew) content inside
      rw [List.length_cons] at bound
      rw [Span.depth]
      omega

/-- The deeper canonical spans nest, the fewer closers are left for what is around them. -/
theorem Span.CanonicalAll.depthAll_add_length_le
    {around : List Closer}
    (nodup : around.Nodup)
    (spans : List Span)
    (canonical : Span.CanonicalAll around spans) :
    Span.depthAll spans + around.length ≤ Closer.all.length := by
  cases spans with
  | nil =>
      rw [Span.depthAll, Nat.zero_add]
      exact Closer.length_le_of_nodup nodup
  | cons span rest =>
      obtain ⟨first, _, _, later⟩ := canonical
      have ofFirst := Span.Canonical.depth_add_length_le nodup span first
      have ofRest := Span.CanonicalAll.depthAll_add_length_le nodup rest later
      rw [Span.depthAll]
      omega

end

/-! ## What is absent before an awaited closer -/

/-- The characters that spans with some closer are written with. -/
def Closer.marks : Closer → Text
  | .target => ['!', '[', ']', '(', ')']
  | .backtick => ['\x60']
  | .doubleStar => ['*']
  | .star => ['*']
  | .doubleTilde => ['~']

/-- The closers of the spans that are written with some mark. -/
def Closer.writtenWith (mark : Char) : List Closer :=
  all.filter fun closer => closer.marks.contains mark

/-- A mark is awaited when all the closers of spans that are written with it are. -/
def Closer.Awaits (around : List Closer) (mark : Char) : Prop :=
  writtenWith mark ⊆ around

namespace Closer.Awaits

variable
    {around : List Closer}
    {mark : Char}

/-- What is awaited around a stretch is awaited inside it, too. -/
theorem cons
    (awaits : Awaits around mark)
    (closer : Closer) :
    Awaits (closer :: around) mark :=
  fun _ isWritten => List.mem_cons_of_mem closer (awaits isWritten)

/-- A span with a closer that is not around is not written with a mark that is awaited. -/
theorem not_mem_marks
    (awaits : Awaits around mark)
    {closer : Closer}
    (isNew : closer ∉ around) :
    mark ∉ closer.marks := by
  intro isMark
  have isWritten : closer ∈ writtenWith mark := by
    simp [writtenWith, mem_all closer, isMark]
  exact isNew (awaits isWritten)

end Closer.Awaits

mutual

/-- The mark that closes a stretch around a canonical span is not in what the span is written as. -/
theorem Span.Canonical.not_mem_write
    {around : List Closer}
    {mark : Char}
    (isMarkup : mark ∈ markupCharacters)
    (notBacktick : mark ≠ '\x60')
    (awaits : Closer.Awaits around mark)
    (span : Span)
    (canonical : span.Canonical around) :
    mark ∉ span.write := by
  cases span with
  | text content =>
      exact canonical.not_mem isMarkup
  | code content =>
      have absent := IsPlain.not_mem canonical isMarkup
      simp [Span.write, absent, notBacktick]
  | bold content | italic content =>
      obtain ⟨isNew, _, _, inside⟩ := canonical
      have otherMark := awaits.not_mem_marks isNew
      have absent := Span.CanonicalAll.not_mem_writeAll isMarkup notBacktick (awaits.cons _)
        content inside
      simp only [Closer.marks, List.mem_singleton] at otherMark
      simp [Span.write, absent, otherMark]
  | strikethrough content =>
      obtain ⟨isNew, _, inside⟩ := canonical
      have otherMark := awaits.not_mem_marks isNew
      have absent := Span.CanonicalAll.not_mem_writeAll isMarkup notBacktick (awaits.cons _)
        content inside
      simp only [Closer.marks, List.mem_singleton] at otherMark
      simp [Span.write, absent, otherMark]
  | link url content =>
      obtain ⟨isNew, plain, _, inside⟩ := canonical
      have otherMark := awaits.not_mem_marks isNew
      have absent := Span.CanonicalAll.not_mem_writeAll isMarkup notBacktick (awaits.cons _)
        content inside
      simp only [Closer.marks, List.mem_cons, not_or] at otherMark
      simp [Span.write, absent, otherMark, plain.not_mem isMarkup]
  | image alt url =>
      obtain ⟨isNew, plainAlt, plainUrl⟩ := canonical
      have otherMark := awaits.not_mem_marks isNew
      simp only [Closer.marks, List.mem_cons, not_or] at otherMark
      simp [Span.write, otherMark, plainAlt.not_mem isMarkup, plainUrl.not_mem isMarkup]

/-- A mark that is awaited is not written before. -/
theorem Span.CanonicalAll.not_mem_writeAll
    {around : List Closer}
    {mark : Char}
    (isMarkup : mark ∈ markupCharacters)
    (notBacktick : mark ≠ '\x60')
    (awaits : Closer.Awaits around mark)
    (spans : List Span)
    (canonical : Span.CanonicalAll around spans) :
    mark ∉ Span.writeAll spans := by
  cases spans with
  | nil =>
      simp [Span.writeAll]
  | cons span rest =>
      obtain ⟨first, _, _, later⟩ := canonical
      rw [Span.writeAll, List.mem_append, not_or]
      exact ⟨Span.Canonical.not_mem_write isMarkup notBacktick awaits span first,
        Span.CanonicalAll.not_mem_writeAll isMarkup notBacktick awaits rest later⟩

end

namespace Span.CanonicalAll

variable
    {around : List Closer}
    {spans : List Span}

/-- The label of a link has no closing bracket in it. -/
theorem bracket_not_mem_writeAll
    (canonical : Span.CanonicalAll around spans)
    (inLink : .target ∈ around) :
    ']' ∉ Span.writeAll spans := by
  have awaits : Closer.Awaits around ']' :=
    List.cons_subset.mpr ⟨inLink, List.nil_subset _⟩
  exact canonical.not_mem_writeAll (by decide) (by decide) awaits

/-- The inside of a strikethrough has no tilde in it. -/
theorem tilde_not_mem_writeAll
    (canonical : Span.CanonicalAll around spans)
    (inStrikethrough : .doubleTilde ∈ around) :
    '~' ∉ Span.writeAll spans := by
  have awaits : Closer.Awaits around '~' :=
    List.cons_subset.mpr ⟨inStrikethrough, List.nil_subset _⟩
  exact canonical.not_mem_writeAll (by decide) (by decide) awaits

/-- A star is a mark of two closers, so that either one alone leaves stars to the other. -/
theorem star_not_mem_writeAll
    (canonical : Span.CanonicalAll around spans)
    (inBold : .doubleStar ∈ around)
    (inItalic : .star ∈ around) :
    '*' ∉ Span.writeAll spans := by
  have awaits : Closer.Awaits around '*' :=
    List.cons_subset.mpr ⟨inBold, List.cons_subset.mpr ⟨inItalic, List.nil_subset _⟩⟩
  exact canonical.not_mem_writeAll (by decide) (by decide) awaits

end Span.CanonicalAll

/-! ## How written spans start -/

/-- A canonical span is written as something, which starts with a star only if it is starred. -/
theorem Span.Canonical.write_eq_cons
    {around : List Closer}
    {span : Span}
    (canonical : span.Canonical around) :
    ∃ first later, span.write = first :: later ∧ (¬ span.isStarred → first ≠ '*') := by
  cases span with
  | text content =>
      have plain : IsPlain content := canonical
      cases shape : content.toList with
      | nil =>
          exact (plain.toList_ne_nil shape).elim
      | cons first later =>
          have noStar : '*' ∉ content.toList := plain.not_mem (by decide)
          refine ⟨first, later, shape, fun _ isStar => noStar ?_⟩
          simp [shape, isStar]
  | bold | italic =>
      exact ⟨'*', _, rfl, by simp [Span.isStarred]⟩
  | strikethrough | code | link | image =>
      exact ⟨_, _, rfl, fun _ => by decide⟩

namespace Span.CanonicalAll

variable
    {around : List Closer}
    {spans : List Span}

/-- Canonical spans start with a star only if the first one is starred. -/
theorem head?_writeAll_ne_star
    (canonical : Span.CanonicalAll around spans)
    (notStarred : ¬ spans.head?.any Span.isStarred) :
    (Span.writeAll spans).head? ≠ some '*' := by
  cases spans with
  | nil =>
      simp [Span.writeAll]
  | cons span rest =>
      obtain ⟨first, later, shape, notStar⟩ := canonical.1.write_eq_cons
      rw [Span.writeAll, shape]
      simpa using notStar (by simpa using notStarred)

/-- Canonical spans are written as something. -/
theorem writeAll_ne_nil
    (canonical : Span.CanonicalAll around spans)
    (nonempty : spans ≠ []) :
    Span.writeAll spans ≠ [] := by
  cases spans with
  | nil =>
      exact (nonempty rfl).elim
  | cons span rest =>
      obtain ⟨first, later, shape, _⟩ := canonical.1.write_eq_cons
      rw [Span.writeAll, shape]
      exact List.cons_ne_nil _ _

end Span.CanonicalAll

/-! ## The stars inside a starred span -/

/-- Of the closers with stars one at least is around, and the other one is written so. -/
structure Closer.LeavesMark (around : List Closer) (mark : Text) : Prop where
  bold : .doubleStar ∉ around → .star ∈ around ∧ mark = ['*', '*']
  italic : .star ∉ around → .doubleStar ∈ around ∧ mark = ['*']

namespace Closer.LeavesMark

variable
    {around : List Closer}
    {mark : Text}

/-- A mark that is left to the stretch around it is left to it inside of any other one. -/
theorem cons
    (leaves : LeavesMark around mark)
    (closer : Closer) :
    LeavesMark (closer :: around) mark := by
  constructor
  · intro isNew
    obtain ⟨member, same⟩ := leaves.bold (List.not_mem_of_not_mem_cons isNew)
    exact ⟨List.mem_cons_of_mem _ member, same⟩
  · intro isNew
    obtain ⟨member, same⟩ := leaves.italic (List.not_mem_of_not_mem_cons isNew)
    exact ⟨List.mem_cons_of_mem _ member, same⟩

/-- Inside a starred span only stars of the other kind are left. -/
theorem of_doubleStar
    (around : List Closer) :
    LeavesMark (.doubleStar :: around) ['*'] where
  bold isNew := (isNew List.mem_cons_self).elim
  italic _ := ⟨List.mem_cons_self, rfl⟩

/-- Inside an italic two stars are left to bold stretches. -/
theorem of_star
    (around : List Closer) :
    LeavesMark (.star :: around) ['*', '*'] where
  bold _ := ⟨List.mem_cons_self, rfl⟩
  italic isNew := (isNew List.mem_cons_self).elim

end Closer.LeavesMark

mutual

/-- In front of a text with its stars matched, a canonical span keeps them matched. -/
theorem Span.Canonical.starsMatched_write_append
    {around : List Closer}
    {mark rest : Text}
    (leaves : Closer.LeavesMark around mark)
    (span : Span)
    (canonical : span.Canonical around)
    (matched : StarsMatched mark rest)
    (apart : span.isStarred → rest.head? ≠ some '*') :
    StarsMatched mark (span.write ++ rest) := by
  cases span with
  | text content =>
      exact matched.append_of_not_mem (canonical.not_mem (by decide))
  | code content =>
      have noStar := IsPlain.not_mem canonical (show '*' ∈ markupCharacters by decide)
      exact matched.append_of_not_mem (by simp [Span.write, noStar])
  | image alt url =>
      obtain ⟨_, plainAlt, plainUrl⟩ := canonical
      have noStarAlt := plainAlt.not_mem (show '*' ∈ markupCharacters by decide)
      have noStarUrl := plainUrl.not_mem (show '*' ∈ markupCharacters by decide)
      exact matched.append_of_not_mem (by simp [Span.write, noStarAlt, noStarUrl])
  | bold content =>
      obtain ⟨isNew, nonempty, _, inside⟩ := canonical
      obtain ⟨inItalic, rfl⟩ := leaves.bold isNew
      exact .enclosed (inside.writeAll_ne_nil nonempty)
        (inside.star_not_mem_writeAll List.mem_cons_self (List.mem_cons_of_mem _ inItalic))
        (apart rfl) matched
  | italic content =>
      obtain ⟨isNew, nonempty, _, inside⟩ := canonical
      obtain ⟨inBold, rfl⟩ := leaves.italic isNew
      exact .enclosed (inside.writeAll_ne_nil nonempty)
        (inside.star_not_mem_writeAll (List.mem_cons_of_mem _ inBold) List.mem_cons_self)
        (apart rfl) matched
  | strikethrough content =>
      obtain ⟨_, _, inside⟩ := canonical
      have matchedInside := Span.CanonicalAll.starsMatched_writeAll (leaves.cons _)
        content inside
      have matchedBehind : StarsMatched mark (['~', '~'] ++ rest) :=
        matched.append_of_not_mem (by decide)
      have whole :
          StarsMatched mark (['~', '~'] ++ (Span.writeAll content ++ (['~', '~'] ++ rest))) :=
        (matchedInside.append matchedBehind (by simp)).append_of_not_mem (by decide)
      simpa [Span.write] using whole
  | link url content =>
      obtain ⟨_, plainUrl, _, inside⟩ := canonical
      have noStarUrl := plainUrl.not_mem (show '*' ∈ markupCharacters by decide)
      have matchedInside := Span.CanonicalAll.starsMatched_writeAll (leaves.cons _)
        content inside
      have matchedBehind : StarsMatched mark ([']', '('] ++ url.toList ++ [')'] ++ rest) :=
        matched.append_of_not_mem (by simp [noStarUrl])
      have whole : StarsMatched mark
          (['['] ++ (Span.writeAll content ++ ([']', '('] ++ url.toList ++ [')'] ++ rest))) :=
        (matchedInside.append matchedBehind (by simp)).append_of_not_mem (by decide)
      simpa [Span.write] using whole

/-- Spans inside a starred one are written with matched stars of the other kind only. -/
theorem Span.CanonicalAll.starsMatched_writeAll
    {around : List Closer}
    {mark : Text}
    (leaves : Closer.LeavesMark around mark)
    (spans : List Span)
    (canonical : Span.CanonicalAll around spans) :
    StarsMatched mark (Span.writeAll spans) := by
  cases spans with
  | nil =>
      exact .nil
  | cons span rest =>
      obtain ⟨first, _, apart, later⟩ := canonical
      exact Span.Canonical.starsMatched_write_append leaves span first
        (Span.CanonicalAll.starsMatched_writeAll leaves rest later)
        (fun starred => later.head?_writeAll_ne_star (apart starred))

end

end Guidebook
