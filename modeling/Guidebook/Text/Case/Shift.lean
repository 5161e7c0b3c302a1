namespace Guidebook

/-!
# Letters that change case by a fixed distance

Most letters beyond ASCII lie a fixed distance from their partner of the other
case, in runs of neighbours or of every second code point.
-/

/-- The code points from `first` to `last`, `step` apart, that move by `distance`. -/
structure CaseShift where
  first : Nat
  last : Nat
  step : Nat
  distance : Int
  deriving Repr, DecidableEq

namespace CaseShift

/-- Whether a code point is one of those that move. -/
def covers (shift : CaseShift) (code : Nat) : Bool :=
  shift.first ≤ code && code ≤ shift.last && (code - shift.first) % shift.step == 0

/-- Moves a character by the first shift that covers it, and keeps any other. -/
def apply (shifts : List CaseShift) (character : Char) : Char :=
  match shifts.find? (·.covers character.toNat) with
  | none => character
  | some shift => Char.ofNat (character.toNat + shift.distance).toNat

end CaseShift

end Guidebook
