import Criteria.Proofs.Number.Nearness

/-!
# Rounding keeps the order

A greater quotient is not rounded to a smaller number, neither to a whole one nor to a
count of 53 binary digits.  Two results of one spacing are compared as whole numbers; of
two spacings, a power of two lies between the results.
-/

namespace Criteria

section Quotients

variable {left right denominator : Nat}

theorem roundedQuotient_mono (positive : 0 < denominator) (ordered : left ≤ right) :
    roundedQuotient left denominator ≤ roundedQuotient right denominator := by
  by_contra crossing
  have above := (roundedQuotient_bounds positive left).2
  have below := (roundedQuotient_bounds positive right).1
  -- Both are half a unit off at most, so results that cross are those of one quotient.
  have unitApart := Nat.mul_le_mul_right denominator (Nat.lt_of_not_le crossing)
  rw [Nat.add_one_mul] at unitApart
  have same : left = right := by omega
  apply crossing
  rw [same]

end Quotients

namespace Binary64

section Counts

variable {left right denominator : Nat}

theorem lt_two_pow_excessDigits (count : Nat) : count < 2 ^ (53 + excessDigits count) := by
  by_cases zero : count = 0
  · rw [zero]
    exact Nat.two_pow_pos _
  · apply (Nat.log2_lt zero).mp
    unfold excessDigits
    omega

theorem excessDigits_mono (ordered : left ≤ right) : excessDigits left ≤ excessDigits right := by
  apply excessDigits_le
  have small := lt_two_pow_excessDigits right
  rw [Nat.add_comm] at small
  exact Nat.lt_of_le_of_lt ordered small

/-- The nearest count has no more digits than 53, or is the next power of two. -/
theorem nearestCount_le (positive : 0 < denominator) (numerator : Nat) :
    nearestCount numerator denominator ≤
      2 ^ (53 + excessDigits (numerator / denominator)) := by
  have small := lt_two_pow_excessDigits (numerator / denominator)
  rw [Nat.div_lt_iff_lt_mul positive] at small
  unfold nearestCount
  generalize excessDigits (numerator / denominator) = excess at *
  have spaced : 0 < denominator * 2 ^ excess :=
    Nat.mul_pos positive (Nat.two_pow_pos excess)
  have regrouped : 2 ^ (53 + excess) * denominator = 2 ^ 53 * (denominator * 2 ^ excess) := by
    rw [Nat.pow_add]
    ring
  rw [regrouped] at small
  have rounded := roundedQuotient_mono spaced small.le
  rw [roundedQuotient_mul spaced] at rounded
  rw [Nat.pow_add]
  exact Nat.mul_le_mul_right _ rounded

theorem nearestCount_mono (positive : 0 < denominator) (ordered : left ≤ right) :
    nearestCount left denominator ≤ nearestCount right denominator := by
  have floors : left / denominator ≤ right / denominator := Nat.div_le_div_right ordered
  rcases Nat.eq_or_lt_of_le (excessDigits_mono floors) with same | coarser
  · unfold nearestCount
    rw [same]
    apply Nat.mul_le_mul_right
    exact roundedQuotient_mono (Nat.mul_pos positive (Nat.two_pow_pos _)) ordered
  · have large := two_pow_le_of_excessDigits (Nat.zero_lt_of_lt coarser)
    rw [Nat.le_div_iff_mul_le positive, ← Nat.one_mul (2 ^ _)] at large
    calc nearestCount left denominator
        ≤ 2 ^ (53 + excessDigits (left / denominator)) := nearestCount_le positive left
      _ ≤ 2 ^ (52 + excessDigits (right / denominator)) :=
        Nat.pow_le_pow_right Nat.two_pos (by omega)
      _ = 1 * 2 ^ (52 + excessDigits (right / denominator)) := (Nat.one_mul _).symm
      _ ≤ nearestCount right denominator :=
        le_nearestCount positive (by decide) large

end Counts

section Signs

/-- What grows with the magnitude grows with the signed number. -/
theorem signed_mono {function : Nat → Nat}
    (growing : ∀ {left right}, left ≤ right → function left ≤ function right)
    {left right : Int} (ordered : left ≤ right) :
    signed (decide (left < 0)) (function left.natAbs) ≤
      signed (decide (right < 0)) (function right.natAbs) := by
  by_cases rightNegative : right < 0
  · have leftNegative : left < 0 := by omega
    have magnitudes : right.natAbs ≤ left.natAbs := by omega
    have := growing magnitudes
    simp only [signed, leftNegative, rightNegative, decide_true, if_true]
    omega
  · by_cases leftNegative : left < 0
    · simp only [signed, leftNegative, rightNegative, decide_true, decide_false, if_true,
        Bool.false_eq_true, if_false]
      omega
    · have magnitudes : left.natAbs ≤ right.natAbs := by omega
      have := growing magnitudes
      simp only [signed, leftNegative, rightNegative, decide_false, Bool.false_eq_true,
        if_false]
      omega

end Signs

end Binary64

end Criteria
