import Guidebook.Block.Reading
import Guidebook.Proofs.Text.Joining

namespace Guidebook

/-!
# Guides that are written line by line

A guide whose lines start and end in something other than a blank is read from these
very lines.  Lines that are all of the same kind are all taken along by a block that
goes on as long as such lines follow.
-/

/-- All lines are taken when each of them is written for a value that it is read as. -/
theorem takeLeading_map
    {value? : Line → Option α}
    {write : β → Line}
    {value : β → α}
    {sources : List β}
    (readBack : ∀ source ∈ sources, value? (write source) = some (value source)) :
    takeLeading value? (sources.map write) = (sources.map value, []) := by
  induction sources with
  | nil =>
      rfl
  | cons source rest inductionHypothesis =>
      obtain ⟨first, others⟩ := List.forall_mem_cons.mp readBack
      simp [takeLeading, first, inductionHypothesis others]

namespace Block

/-- Finished lines put together are read from these lines, if the first one is not indented. -/
theorem read_joinLines
    {first : Line}
    {others : List Line}
    (front : ∀ character ∈ first.head?, ¬ isBlank character)
    (finished : ∀ line ∈ first :: others, Text.Finished line) :
    read (Text.joinLines (first :: others)) = ofLines (first :: others) := by
  rw [read, Text.trim_joinLines front finished, Text.lines_joinLines finished]

/-- A block that leaves no line is the only one. -/
theorem ofLines_eq_singleton
    {line : Line}
    {rest : List Line}
    {block : Block}
    (taken : take line rest = (some block, [])) :
    ofLines (line :: rest) = [block] := by
  simp [ofLines, taken]

end Block

end Guidebook
