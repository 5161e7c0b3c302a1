import Guidebook.Proofs.Text.Joining

namespace Guidebook.Text

/-!
# Numbers in decimal digits

A number is read from its digits again wherever no further digit stands behind them.
-/

/-- A number starts with a digit. -/
theorem exists_decimal_eq_cons
    (value : Nat) :
    ∃ digit others, decimal value = digit :: others ∧ digit.isDigit := by
  obtain ⟨digit, others, shape⟩ :=
    List.exists_cons_of_ne_nil (Nat.toDigits_ne_nil : Nat.toDigits 10 value ≠ [])
  have member : digit ∈ Nat.toDigits 10 value := by
    rw [shape]
    exact List.mem_cons_self
  exact ⟨digit, others, shape, Nat.isDigit_of_mem_toDigits (by decide) (by decide) member⟩

/-- The digits of a number are told apart from what comes behind them. -/
theorem decimal_append_of_ends
    (value : Nat)
    {rest : Text}
    (ends : ∀ first ∈ rest.head?, ¬ first.isDigit) :
    (decimal value ++ rest).takeWhile Char.isDigit = decimal value ∧
      (decimal value ++ rest).dropWhile Char.isDigit = rest :=
  takeWhile_append_of_stops
    (fun _ member => Nat.isDigit_of_mem_toDigits (by decide) (by decide) member) ends

/-- The digits of a number make up its value. -/
theorem ofDigitChars_decimal
    (value : Nat) :
    Nat.ofDigitChars 10 (decimal value) 0 = value :=
  Nat.ofDigitChars_ten_toDigits

end Guidebook.Text
