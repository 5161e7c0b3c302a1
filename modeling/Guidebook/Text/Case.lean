import Guidebook.Text.Basic
import Guidebook.Text.Case.Cased
import Guidebook.Text.Case.Lower
import Guidebook.Text.Case.Upper

namespace Guidebook

/-!
# Small and capital letters

Changing the case of a whole text.  Every character is changed on its own, but
for the capital sigma, whose small form depends on whether it ends a word.
-/

namespace Text

/-- Whether the nearest character that case rules do not pass over has a case. -/
def nearestIsCased (text : Text) : Bool :=
  match text.dropWhile CharSet.caseIgnorable.contains with
  | [] => false
  | character :: _ => CharSet.cased.contains character

/-- The small letters of a text, when the characters before it are given backwards. -/
def toSmallAfter (before : Text) : Text → Text
  | [] => []
  | 'Σ' :: rest =>
      (if nearestIsCased before && !nearestIsCased rest then 'ς' else 'σ') ::
        toSmallAfter ('Σ' :: before) rest
  | character :: rest => smallForm character ++ toSmallAfter (character :: before) rest

/-- The text in small letters. -/
def toSmall (text : Text) : Text :=
  toSmallAfter [] text

/-- The text in capital letters. -/
def toCapitals (text : Text) : Text :=
  text.flatMap capitalForm

end Text

end Guidebook
