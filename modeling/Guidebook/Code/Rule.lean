import Guidebook.Code.Pattern
import Guidebook.Code.Token

namespace Guidebook

/-!
# Rules that classify code

A rule claims parts of a plain text for a kind of token.  What it claims may
need a context right before and right after, which stays plain but takes part
in no other match of the rule.
-/

/-- A kind of token, the pattern of its text, and the patterns of what must surround it. -/
structure Rule where
  kind : TokenKind
  body : Pattern
  lead : Option Pattern := none
  trail : Option Pattern := none

/-- A place where a rule fits: the lengths of the lead, the claimed body and the trail. -/
structure Match where
  lead : Nat
  body : Nat
  trail : Nat
  deriving Repr, DecidableEq

namespace Match

/-- The end of the claimed body. -/
def bodyEnd (found : Match) : Nat :=
  found.lead + found.body

/-- The number of characters that a match takes. -/
def extent (found : Match) : Nat :=
  found.bodyEnd + found.trail

end Match

namespace Rule

/-- The extent of a context, which is nothing where a rule asks for none. -/
def contextExtent? (context : Option Pattern) (before : Option Char) (text : Text) :
    Option Nat :=
  match context with
  | none => some 0
  | some pattern => pattern.extent? before text

/-- The match of a rule at the start of a text; it takes at least one character. -/
def matchAt? (rule : Rule) (before : Option Char) (text : Text) : Option Match := do
  let lead ← contextExtent? rule.lead before text
  let body ← rule.body.extent? (characterBefore before text lead) (text.drop lead)
  let bodyEnd := lead + body
  let trail ← contextExtent? rule.trail (characterBefore before text bodyEnd) (text.drop bodyEnd)
  let found : Match := ⟨lead, body, trail⟩
  if 0 < found.extent then some found else none

/-- A match takes at least one character. -/
theorem extent_pos_of_matchAt? {rule : Rule} {before : Option Char} {text : Text} {found : Match}
    (matched : rule.matchAt? before text = some found) : 0 < found.extent := by
  simp only [matchAt?, Option.bind_eq_bind, Option.bind_eq_some_iff] at matched
  obtain ⟨lead, _, body, _, trail, _, positive⟩ := matched
  split at positive
  · next isPositive =>
      simp only [Option.some.injEq] at positive
      rw [← positive]
      exact isPositive
  · simp at positive

/--
Where the successive matches of a rule claim a text, from left to right.  The
text starts at a given place of the whole text, behind the given character.
-/
def claimsFrom (rule : Rule) (place : Nat) (before : Option Char) : Text → List Extent
  | [] => []
  | character :: rest =>
      match _matched : rule.matchAt? before (character :: rest) with
      | none => claimsFrom rule (place + 1) (some character) rest
      | some found =>
          let text := character :: rest
          ⟨place + found.lead, place + found.bodyEnd⟩ ::
            claimsFrom rule (place + found.extent) (characterBefore before text found.extent)
              (text.drop found.extent)
termination_by text => text.length
decreasing_by
  · simp
  · have positive := extent_pos_of_matchAt? _matched
    simp only [List.length_drop, List.length_cons]
    omega

/-- Where the successive matches of a rule claim a text that stands on its own. -/
def claims (rule : Rule) (text : Text) : List Extent :=
  rule.claimsFrom 0 none text

end Rule

end Guidebook
