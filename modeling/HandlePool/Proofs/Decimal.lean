import HandlePool.Duration.Spelling
import Mathlib.Data.List.Basic

/-!
# Digits of written numbers

A number is written as its decimal digits, the first of which is zero for zero
only.  Read back digit by digit, it only grows, so no number on the way is
greater than the one written.
-/

namespace HandlePool
namespace Decimal

theorem le_ofDigitChars
    (digits : List Char)
    (value : Nat) :
    value ≤ Nat.ofDigitChars 10 digits value := by
  induction digits generalizing value with
  | nil => exact Nat.le_refl value
  | cons digit digits inductionHypothesis =>
      rw [Nat.ofDigitChars_cons]
      have later := inductionHypothesis (10 * value + (digit.toNat - '0'.toNat))
      omega

theorem isDigit_of_mem_toDigits
    {value : Nat}
    {digit : Char}
    (present : digit ∈ Nat.toDigits 10 value) :
    digit.isDigit = true :=
  Nat.isDigit_of_mem_toDigits (by decide) (by decide) present

theorem toNat_of_isDigit
    {digit : Char}
    (isDigit : digit.isDigit = true) :
    48 ≤ digit.toNat ∧ digit.toNat ≤ 57 := by
  simp only [Char.isDigit, Bool.and_eq_true, decide_eq_true_eq, ge_iff_le,
    UInt32.le_iff_toNat_le] at isDigit
  exact isDigit

/-- Written numbers have a first digit, and it is zero for zero only. -/
theorem exists_toDigits_eq_cons
    (value : Nat) :
    ∃ first later, Nat.toDigits 10 value = first :: later ∧
      (first.toNat = 48 → value = 0 ∧ later = []) := by
  induction value using Nat.strongRecOn with
  | ind value inductionHypothesis =>
      by_cases short : value < 10
      · have leading : ∀ digit < 10, (Nat.digitChar digit).toNat = 48 →
            digit = 0 := by decide
        exact ⟨Nat.digitChar value, [], Nat.toDigits_of_lt_base short,
          fun isZero => ⟨leading value short isZero, rfl⟩⟩
      · have positive : value / 10 ≠ 0 := by omega
        obtain ⟨first, later, digits, leading⟩ :=
          inductionHypothesis (value / 10) (by omega)
        refine ⟨first, later ++ [Nat.digitChar (value % 10)], ?_, ?_⟩
        · rw [Nat.toDigits_of_base_le (by decide) (by omega), digits,
            List.cons_append]
        · intro isZero
          exact absurd (leading isZero).1 positive

end Decimal
end HandlePool
