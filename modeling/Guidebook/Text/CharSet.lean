namespace Guidebook

/-!
# Sets of characters given by their boundaries

A class of characters over the whole code space is kept as the ascending code
points at which membership changes.  A character belongs to the class exactly
when an odd number of these boundaries lie at or below it.
-/

/-- A set of characters, kept as the ascending code points where membership changes. -/
structure CharSet where
  boundaries : Array Nat
  deriving Repr, DecidableEq

namespace CharSet

/--
The number of boundaries at or below a code point, when all before `low` are
and none from `high` on is.
-/
def rankBetween (set : CharSet) (code low high : Nat) : Nat :=
  if low < high then
    let middle := (low + high) / 2
    if set.boundaries.getD middle 0 ≤ code then
      set.rankBetween code (middle + 1) high
    else
      set.rankBetween code low middle
  else
    low
termination_by high - low

/-- Whether a character belongs to the set. -/
def contains (set : CharSet) (character : Char) : Bool :=
  set.rankBetween character.toNat 0 set.boundaries.size % 2 == 1

end CharSet

end Guidebook
