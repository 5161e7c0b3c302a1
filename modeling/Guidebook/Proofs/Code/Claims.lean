import Guidebook.Code.Language

namespace Guidebook

/-!
# Where rules claim a text

The successive matches of a rule lie inside the text, in order and without
overlapping.  Nothing else about patterns is needed to see that classifying a
line keeps all of its text.
-/

/-- Stretches that lie one behind the other between two places. -/
inductive InOrder : Nat → Nat → List Extent → Prop where
  | nil
      {place stop : Nat} :
      place ≤ stop →
      InOrder place stop []
  | cons
      {place stop : Nat}
      {extent : Extent}
      {later : List Extent} :
      place ≤ extent.start →
      extent.start ≤ extent.stop →
      InOrder extent.stop stop later →
      InOrder place stop (extent :: later)

namespace InOrder

/-- Extents in order lie between two places, the first of which is not behind the second. -/
theorem le
    {place stop : Nat}
    {extents : List Extent}
    (inOrder : InOrder place stop extents) :
    place ≤ stop := by
  induction inOrder with
  | nil bound =>
      exact bound
  | cons startsLater forwards _ laterBound =>
      exact Nat.le_trans startsLater (Nat.le_trans forwards laterBound)

/-- Extents in order from a place on are so from any earlier place. -/
theorem of_le
    {place further stop : Nat}
    {extents : List Extent}
    (inOrder : InOrder further stop extents)
    (bound : place ≤ further) :
    InOrder place stop extents := by
  cases inOrder with
  | nil furtherBound =>
      exact .nil (Nat.le_trans bound furtherBound)
  | cons startsLater forwards later =>
      exact .cons (Nat.le_trans bound startsLater) forwards later

/-- Some of the extents in order are in order. -/
theorem filter
    {place stop : Nat}
    {extents : List Extent}
    (keep : Extent → Bool)
    (inOrder : InOrder place stop extents) :
    InOrder place stop (extents.filter keep) := by
  induction inOrder with
  | nil bound =>
      exact .nil bound
  | @cons place stop extent later startsLater forwards _ laterKept =>
      by_cases isKept : keep extent
      · rw [List.filter_cons_of_pos isKept]
        exact .cons startsLater forwards laterKept
      · rw [List.filter_cons_of_neg isKept]
        exact laterKept.of_le (Nat.le_trans startsLater forwards)

end InOrder

/-! Whatever is taken off a text lies in the text. -/

/-- A quoted text ends inside the line. -/
theorem quotedExtent?_le_length
    {quote : Char}
    {text : Text}
    {extent : Nat}
    (fits : quotedExtent? quote text = some extent) :
    extent ≤ text.length := by
  fun_induction quotedExtent? quote text generalizing extent with
  | case1 =>
      simp at fits
  | case2 =>
      simp at fits
  | case3 escaped rest _ inductionHypothesis =>
      obtain ⟨inner, innerFits, rfl⟩ := Option.map_eq_some_iff.mp fits
      have bound := inductionHypothesis innerFits
      simp only [List.length_cons]
      omega
  | case4 =>
      cases fits
      simp
  | case5 =>
      simp at fits
  | case6 character rest _ _ _ _ inductionHypothesis =>
      obtain ⟨inner, innerFits, rfl⟩ := Option.map_eq_some_iff.mp fits
      have bound := inductionHypothesis innerFits
      simp only [List.length_cons]
      omega

theorem runExtent_le_length
    (accepts : Char → Bool)
    (text : Text) :
    runExtent accepts text ≤ text.length :=
  List.findIdx_le_length

/-- What a pattern takes lies inside the line. -/
theorem Pattern.extent?_le_length
    {pattern : Pattern}
    {before : Option Char}
    {text : Text}
    {extent : Nat}
    (fits : pattern.extent? before text = some extent) :
    extent ≤ text.length := by
  induction pattern generalizing before text extent with
  | one accepts =>
      cases text with
      | nil =>
          simp [extent?] at fits
      | cons first rest =>
          simp only [extent?, Option.ite_none_right_eq_some, Option.some.injEq] at fits
          rw [← fits.2]
          simp
  | run accepts =>
      simp only [extent?, Option.ite_none_left_eq_some, Option.some.injEq] at fits
      rw [← fits.2]
      exact runExtent_le_length accepts text
  | shortRun accepts most =>
      simp only [extent?, Option.ite_none_left_eq_some, Option.some.injEq] at fits
      rw [← fits.2]
      exact runExtent_le_length accepts text
  | any accepts =>
      simp only [extent?, Option.some.injEq] at fits
      rw [← fits]
      exact runExtent_le_length accepts text
  | quoted quote =>
      cases text with
      | nil =>
          simp [extent?] at fits
      | cons first rest =>
          simp only [extent?, Option.ite_none_right_eq_some] at fits
          obtain ⟨inner, innerFits, rfl⟩ := Option.map_eq_some_iff.mp fits.2
          exact Nat.succ_le_succ (quotedExtent?_le_length innerFits)
  | word choices =>
      simp only [extent?, Option.ite_none_right_eq_some, Option.some.injEq] at fits
      rw [← fits.2]
      exact runExtent_le_length isWordCharacter text
  | boundary =>
      simp only [extent?, Option.ite_none_right_eq_some, Option.some.injEq] at fits
      rw [← fits.2]
      exact Nat.zero_le _
  | sequence first second firstBound secondBound =>
      simp only [extent?] at fits
      split at fits
      · simp at fits
      · next length firstFits =>
          obtain ⟨more, secondFits, rfl⟩ := Option.map_eq_some_iff.mp fits
          have bound := firstBound firstFits
          have boundBehind := secondBound secondFits
          rw [List.length_drop] at boundBehind
          omega
  | choice first second firstBound secondBound =>
      simp only [extent?] at fits
      split at fits
      · exact secondBound fits
      · next firstFits =>
          cases fits
          exact firstBound firstFits

namespace Rule

theorem contextExtent?_le_length
    {context : Option Pattern}
    {before : Option Char}
    {text : Text}
    {extent : Nat}
    (fits : contextExtent? context before text = some extent) :
    extent ≤ text.length := by
  cases context with
  | none =>
      cases fits
      exact Nat.zero_le _
  | some pattern =>
      exact Pattern.extent?_le_length fits

/-- What a rule matches lies inside the line. -/
theorem extent_le_length_of_matchAt?
    {rule : Rule}
    {before : Option Char}
    {text : Text}
    {found : Match}
    (matched : rule.matchAt? before text = some found) :
    found.extent ≤ text.length := by
  simp only [matchAt?, Option.bind_eq_bind, Option.bind_eq_some_iff] at matched
  obtain ⟨lead, leadFits, body, bodyFits, trail, trailFits, positive⟩ := matched
  have leadBound := contextExtent?_le_length leadFits
  have bodyBound := Pattern.extent?_le_length bodyFits
  have trailBound := contextExtent?_le_length trailFits
  simp only [Option.ite_none_right_eq_some, Option.some.injEq] at positive
  rw [← positive.2]
  simp only [Match.extent, Match.bodyEnd]
  simp only [List.length_drop] at bodyBound trailBound
  omega

/-- The claims of a rule from a place on lie in order between that place and the end. -/
theorem inOrder_claimsFrom
    (rule : Rule)
    (place : Nat)
    (before : Option Char)
    (text : Text) :
    InOrder place (place + text.length) (rule.claimsFrom place before text) := by
  fun_induction claimsFrom rule place before text with
  | case1 =>
      exact .nil (Nat.le_refl _)
  | case2 place before character rest _ inductionHypothesis =>
      have sameStop : place + 1 + rest.length = place + (character :: rest).length := by
        rw [List.length_cons, Nat.add_assoc, Nat.add_comm 1]
      rw [← sameStop]
      exact inductionHypothesis.of_le (Nat.le_succ place)
  | case3 place before character rest found matched text inductionHypothesis =>
      have within : found.extent ≤ text.length := extent_le_length_of_matchAt? matched
      have sameStop :
          place + found.extent + (text.drop found.extent).length = place + text.length := by
        rw [List.length_drop, Nat.add_assoc, Nat.add_sub_cancel' within]
      rw [sameStop] at inductionHypothesis
      have bodyWithin : place + found.bodyEnd ≤ place + found.extent :=
        Nat.add_le_add_left (Nat.le_add_right _ _) place
      exact .cons (Nat.le_add_right _ _)
        (Nat.add_le_add_left (Nat.le_add_right _ _) place)
        (inductionHypothesis.of_le bodyWithin)

/-- The claims of a rule follow each other inside the line, and none overlap. -/
theorem inOrder_claims
    (rule : Rule)
    (text : Text) :
    InOrder 0 text.length (rule.claims text) := by
  have inOrder := rule.inOrder_claimsFrom 0 none text
  rwa [Nat.zero_add] at inOrder

@[simp] theorem claims_nil
    (rule : Rule) :
    rule.claims [] = [] := by
  rw [claims, claimsFrom]

end Rule

end Guidebook
