import Guidebook.Text.Basic

namespace Guidebook

/-!
# What is open in markup

Markup is scanned for what is open in it: content between brackets, code after a
number sign, string literals in code, and the backslash in front of a character.
A text is known by what it leaves open, so a text made of others is scanned by
scanning these one after the other.
-/

namespace Typst

/-- What has been opened in markup and not been closed yet. -/
inductive Enclosure where
  /-- Content between brackets, which is markup again. -/
  | content
  /-- Code behind a number sign, in which so many parentheses are open. -/
  | code (parentheses : Nat)
  /-- A string literal in code. -/
  | literal
  /-- A backslash, which takes the meaning off the next character. -/
  | backslash
  deriving Repr, DecidableEq

namespace Enclosure

/-- What is open behind a bracket that closes content, when content is what is open. -/
def leaveContent : List Enclosure → Option (List Enclosure)
  | .content :: outer => some outer
  | _ => none

/-- What is open behind a character of markup. -/
def markupStep (opened : List Enclosure) (character : Char) : Option (List Enclosure) :=
  match character with
  | '\\' => some (.backslash :: opened)
  | '#' => some (.code 0 :: opened)
  | '[' => some (.content :: opened)
  | ']' => leaveContent opened
  | _ => some opened

/--
What is open behind a character of code.  Outside of parentheses, a semicolon or a
line end closes the code, and so does the bracket that closes the content around it.
-/
def codeStep (parentheses : Nat) (outer : List Enclosure) (character : Char) :
    Option (List Enclosure) :=
  match character with
  | '"' => some (.literal :: .code parentheses :: outer)
  | '[' => some (.content :: .code parentheses :: outer)
  | ']' => if parentheses = 0 then leaveContent outer else none
  | '(' => some (.code (parentheses + 1) :: outer)
  | ')' => if parentheses = 0 then none else some (.code (parentheses - 1) :: outer)
  | ';' | '\n' => if parentheses = 0 then some outer else some (.code parentheses :: outer)
  | _ => some (.code parentheses :: outer)

/-- What is open behind a character of a string literal. -/
def literalStep (outer : List Enclosure) (character : Char) : Option (List Enclosure) :=
  match character with
  | '\\' => some (.backslash :: .literal :: outer)
  | '"' => some outer
  | _ => some (.literal :: outer)

/--
What is open behind a character, the innermost first; where nothing is open, there
is markup.  There is no answer for a closer without its opener.
-/
def step (opened : List Enclosure) (character : Char) : Option (List Enclosure) :=
  match opened with
  | .backslash :: outer => some outer
  | .literal :: outer => literalStep outer character
  | .code parentheses :: outer => codeStep parentheses outer character
  | .content :: _ | [] => markupStep opened character

/-- What is open behind a text. -/
def scan (opened : List Enclosure) (text : Text) : Option (List Enclosure) :=
  text.foldlM step opened

/-- A bracket in code that a parenthesis is open in closes nothing. -/
example : scan [] "#raw(\"a]\"]".toList = none := by
  decide

/-- Content is left in the same way whatever is open around it. -/
theorem leaveContent_append
    {opened left : List Enclosure}
    (found : leaveContent opened = some left)
    (outer : List Enclosure) :
    leaveContent (opened ++ outer) = some (left ++ outer) := by
  unfold leaveContent at found
  split at found
  · cases found
    rfl
  · cases found

theorem markupStep_append
    {opened left : List Enclosure}
    {character : Char}
    (found : markupStep opened character = some left)
    (outer : List Enclosure) :
    markupStep (opened ++ outer) character = some (left ++ outer) := by
  unfold markupStep at found ⊢
  split at found
  case h_4 =>
      exact leaveContent_append found outer
  all_goals
    cases found
    rfl

/-- A character of code opens and closes the same whatever is open around it. -/
theorem codeStep_append
    {parentheses : Nat}
    {opened left : List Enclosure}
    {character : Char}
    (found : codeStep parentheses opened character = some left)
    (outer : List Enclosure) :
    codeStep parentheses (opened ++ outer) character = some (left ++ outer) := by
  unfold codeStep at found ⊢
  split at found
  case h_3 =>
      rw [Option.ite_none_right_eq_some] at found
      exact (if_pos found.1).trans (leaveContent_append found.2 outer)
  case h_5 =>
      rw [Option.ite_none_left_eq_some] at found
      obtain ⟨isOpen, isLeft⟩ := found
      cases isLeft
      exact if_neg isOpen
  case h_6 | h_7 =>
      split at found
      all_goals
        cases found
        simp_all
  all_goals
    cases found
    rfl

theorem literalStep_append
    {opened left : List Enclosure}
    {character : Char}
    (found : literalStep opened character = some left)
    (outer : List Enclosure) :
    literalStep (opened ++ outer) character = some (left ++ outer) := by
  unfold literalStep at found ⊢
  split at found
  all_goals
    cases found
    rfl

/-- A character does the same in content as it does where nothing is open around it. -/
theorem step_append
    {opened left : List Enclosure}
    {character : Char}
    (found : step opened character = some left)
    (outer : List Enclosure) :
    step (opened ++ .content :: outer) character = some (left ++ .content :: outer) := by
  fun_cases step opened character with
  | case1 opened =>
      cases found
      rfl
  | case2 opened =>
      exact literalStep_append found _
  | case3 parentheses opened =>
      exact codeStep_append found _
  | case4 | case5 =>
      exact markupStep_append found _

end Enclosure

open Enclosure

/-- A text that is scanned with some things open leaves others open. -/
def Leaves (opened : List Enclosure) (text : Text) (left : List Enclosure) : Prop :=
  scan opened text = some left

/-- A text that is scanned as markup leaves nothing open. -/
def Closed (text : Text) : Prop :=
  Leaves [] text []

namespace Leaves

theorem of_step
    {opened left : List Enclosure}
    {character : Char}
    (stepped : step opened character = some left) :
    Leaves opened [character] left := by
  rw [Leaves, scan, List.foldlM_cons, stepped]
  rfl

/-- A literal string is scanned by its characters. -/
theorem of_literal
    {opened left : List Enclosure}
    {characters : List Char}
    (found : scan opened characters = some left) :
    Leaves opened (String.ofList characters).toList left := by
  rw [Leaves, String.toList_ofList, found]

/-- What a text leaves open is what the text behind it starts with. -/
theorem append
    {opened middle left : List Enclosure}
    {first second : Text}
    (before : Leaves opened first middle)
    (behind : Leaves middle second left) :
    Leaves opened (first ++ second) left := by
  rw [Leaves, scan, List.foldlM_append, ← scan, before]
  exact behind

/-- A text does the same in content as it does where nothing is open around it. -/
theorem within
    {opened left : List Enclosure}
    {text : Text}
    (leaves : Leaves opened text left)
    (outer : List Enclosure) :
    Leaves (opened ++ .content :: outer) text (left ++ .content :: outer) := by
  induction text generalizing opened with
  | nil =>
      cases leaves
      rfl
  | cons character rest inductionHypothesis =>
      rw [Leaves, scan, List.foldlM_cons] at leaves
      obtain ⟨middle, stepped, behind⟩ := Option.bind_eq_some_iff.mp leaves
      rw [Leaves, scan, List.foldlM_cons, step_append stepped]
      exact inductionHypothesis behind

/-- Texts that leave open what they find open do so one after the other. -/
theorem flatMap
    {opened : List Enclosure}
    {items : List α}
    {text : α → Text}
    (keeps : ∀ item ∈ items, Leaves opened (text item) opened) :
    Leaves opened (items.flatMap text) opened := by
  induction items with
  | nil =>
      rfl
  | cons item rest inductionHypothesis =>
      obtain ⟨first, others⟩ := List.forall_mem_cons.mp keeps
      rw [List.flatMap_cons]
      exact first.append (inductionHypothesis others)

/-- Texts that leave things as they are do so with separators between them. -/
theorem intercalate
    {opened : List Enclosure}
    {separator : Text}
    {texts : List Text}
    (between : Leaves opened separator opened)
    (keeps : ∀ text ∈ texts, Leaves opened text opened) :
    Leaves opened (separator.intercalate texts) opened := by
  induction texts with
  | nil =>
      rfl
  | cons text rest inductionHypothesis =>
      obtain ⟨first, others⟩ := List.forall_mem_cons.mp keeps
      cases rest with
      | nil =>
          rw [List.intercalate_singleton]
          exact first
      | cons next rest =>
          rw [List.intercalate_cons_cons]
          exact (first.append between).append (inductionHypothesis others)

end Leaves

/-- Closed markup stays so inside of content. -/
theorem Closed.inside
    {text : Text}
    (closed : Closed text)
    (outer : List Enclosure) :
    Leaves (.content :: outer) text (.content :: outer) :=
  closed.within outer

/-- Closed markup stays content of what is opened in front of it and closed behind it. -/
theorem Leaves.around
    {opened outer left : List Enclosure}
    {front content back : Text}
    (start : Leaves opened front (.content :: outer))
    (closed : Closed content)
    (ending : Leaves (.content :: outer) back left) :
    Leaves opened (front ++ content ++ back) left :=
  (start.append (closed.inside outer)).append ending

end Typst

end Guidebook
