import Mathlib.Algebra.Order.Field.Basic
import Mathlib.Algebra.Order.Field.Rat
import Mathlib.Algebra.Order.Ring.Abs
import Mathlib.Tactic.Linarith
import Mathlib.Tactic.Ring
import Criteria.Proofs.Number.Equality

/-!
# Nearness of rounded numbers

A rounded quotient is off by half a unit at most, and is the even number within that
distance if there is one.  A count of steps rounded to 53 binary digits is off by half
the spacing of its neighbours, is a multiple of the spacing, and does not fall below
a count that needs no more digits than that.
-/

namespace Criteria

section Quotients

variable {numerator denominator : Nat}

theorem roundedQuotient_bounds (positive : 0 < denominator) (numerator : Nat) :
    2 * numerator ≤ 2 * (roundedQuotient numerator denominator * denominator) + denominator ∧
      2 * (roundedQuotient numerator denominator * denominator) ≤
        2 * numerator + denominator := by
  have divided := Nat.div_add_mod' numerator denominator
  have restSmall := Nat.mod_lt numerator positive
  unfold roundedQuotient
  dsimp only
  split
  · omega
  · split
    · rw [Nat.add_one_mul (numerator / denominator)]
      omega
    · rcases Nat.mod_two_eq_zero_or_one (numerator / denominator) with even | odd
      · rw [even, Nat.add_zero]
        omega
      · rw [odd, Nat.add_one_mul (numerator / denominator)]
        omega

/-- Half a unit off, with the denominator cleared. -/
theorem near_iff (positive : 0 < denominator) {candidate : Nat} :
    |(candidate : ℚ) - numerator / denominator| ≤ 1 / 2 ↔
      2 * numerator ≤ 2 * (candidate * denominator) + denominator ∧
        2 * (candidate * denominator) ≤ 2 * numerator + denominator := by
  have scale : (0 : ℚ) < denominator := Nat.cast_pos.mpr positive
  have offBy : (candidate - numerator / denominator : ℚ) =
      (candidate * denominator - numerator) / denominator := by
    rw [sub_div, mul_div_cancel_right₀ _ scale.ne']
  rw [offBy, abs_div, abs_of_pos scale, div_le_iff₀ scale, abs_le, ← @Nat.cast_le ℚ,
    ← @Nat.cast_le ℚ]
  push_cast
  constructor
  · rintro ⟨below, above⟩
    constructor <;> linarith
  · rintro ⟨below, above⟩
    constructor <;> linarith

theorem roundedQuotient_near (positive : 0 < denominator) (numerator : Nat) :
    |(roundedQuotient numerator denominator : ℚ) - numerator / denominator| ≤ 1 / 2 :=
  (near_iff positive).mpr (roundedQuotient_bounds positive numerator)

/-- A quotient rounded to a multiple of some spacing. -/
theorem scaledQuotient_near {spacing : Nat} (positive : 0 < denominator)
    (spaced : 0 < spacing) (numerator : Nat) :
    |(roundedQuotient numerator (denominator * spacing) * spacing : ℚ) -
      numerator / denominator| ≤ spacing / 2 := by
  have near := roundedQuotient_near (Nat.mul_pos positive spaced) numerator
  have scale : (0 : ℚ) < spacing := Nat.cast_pos.mpr spaced
  rw [Nat.cast_mul, ← div_div] at near
  have restored : (numerator / denominator / spacing : ℚ) * spacing = numerator / denominator :=
    div_mul_cancel₀ _ scale.ne'
  calc |(roundedQuotient numerator (denominator * spacing) * spacing : ℚ) -
        numerator / denominator|
      = |((roundedQuotient numerator (denominator * spacing) : ℚ) -
          numerator / denominator / spacing) * spacing| := by rw [sub_mul, restored]
    _ = |(roundedQuotient numerator (denominator * spacing) : ℚ) -
          numerator / denominator / spacing| * spacing := by rw [abs_mul, abs_of_pos scale]
    _ ≤ 1 / 2 * spacing := mul_le_mul_of_nonneg_right near scale.le
    _ = spacing / 2 := by ring

/-- The even number at most half a unit off is the rounded quotient. -/
theorem roundedQuotient_eq_of_even (positive : 0 < denominator) {candidate : Nat}
    (even : candidate % 2 = 0)
    (near : |(candidate : ℚ) - numerator / denominator| ≤ 1 / 2) :
    roundedQuotient numerator denominator = candidate := by
  obtain ⟨below, above⟩ := (near_iff positive).mp near
  have divided := Nat.div_add_mod' numerator denominator
  have restSmall := Nat.mod_lt numerator positive
  have notBelow : numerator / denominator ≤ candidate := by
    by_contra less
    have multiplied := Nat.mul_le_mul_right denominator (Nat.lt_of_not_le less)
    rw [Nat.add_one_mul] at multiplied
    omega
  have notAbove : candidate ≤ numerator / denominator + 1 := by
    by_contra greater
    have multiplied := Nat.mul_le_mul_right denominator (Nat.lt_of_not_le greater)
    rw [Nat.add_one_mul, Nat.add_one_mul] at multiplied
    omega
  unfold roundedQuotient
  dsimp only
  rcases Nat.le_or_eq_of_le_succ notAbove with atMost | next
  · obtain rfl : candidate = numerator / denominator := Nat.le_antisymm atMost notBelow
    split
    · rfl
    · split
      · omega
      · omega
  · rw [next, Nat.succ_eq_add_one, Nat.add_one_mul (numerator / denominator)] at above
    split
    · omega
    · split
      · exact next.symm
      · omega

theorem roundedQuotient_mul (positive : 0 < denominator) (quotient : Nat) :
    roundedQuotient (quotient * denominator) denominator = quotient := by
  unfold roundedQuotient
  dsimp only
  rw [Nat.mul_mod_left, Nat.mul_div_cancel quotient positive]
  exact if_pos positive

theorem div_le_roundedQuotient (numerator denominator : Nat) :
    numerator / denominator ≤ roundedQuotient numerator denominator := by
  unfold roundedQuotient
  dsimp only
  split
  · exact Nat.le_refl _
  · split
    · exact Nat.le_succ _
    · exact Nat.le_add_right _ _

end Quotients

namespace Binary64

section Spacing

variable {count digits : Nat}

theorem excessDigits_le (small : count < 2 ^ (digits + 53)) : excessDigits count ≤ digits := by
  unfold excessDigits
  by_cases zero : count = 0
  · rw [zero, Nat.log2_zero]
    omega
  · have := (Nat.log2_lt zero).mpr small
    omega

theorem le_excessDigits (large : 2 ^ (digits + 52) ≤ count) : digits ≤ excessDigits count := by
  have notZero : count ≠ 0 := by
    have := Nat.two_pow_pos (digits + 52)
    omega
  have := (Nat.le_log2 notZero).mpr large
  unfold excessDigits
  omega

end Spacing

section Counts

variable {numerator denominator digits : Nat}

theorem nearestCount_near (positive : 0 < denominator)
    (small : numerator / denominator < 2 ^ (digits + 53)) :
    |(nearestCount numerator denominator : ℚ) - numerator / denominator| ≤ 2 ^ digits / 2 := by
  have spacingSmall : 2 ^ excessDigits (numerator / denominator) ≤ 2 ^ digits :=
    Nat.pow_le_pow_right Nat.two_pos (excessDigits_le small)
  have spacingSmallRat : ((2 ^ excessDigits (numerator / denominator) : Nat) : ℚ) ≤ 2 ^ digits := by
    exact_mod_cast spacingSmall
  have near := scaledQuotient_near positive
    (Nat.two_pow_pos (excessDigits (numerator / denominator))) numerator
  refine le_trans ?_ (div_le_div_of_nonneg_right spacingSmallRat zero_le_two)
  rw [nearestCount, Nat.cast_mul]
  exact near

/-- A count of few enough digits is its own nearest one. -/
theorem nearestCount_mul (positive : 0 < denominator) {significand : Nat} (shift : Nat)
    (fits : significand < 2 ^ 53) :
    nearestCount (significand * 2 ^ shift * denominator) denominator = significand * 2 ^ shift := by
  have small : significand * 2 ^ shift < 2 ^ (shift + 53) := by
    rw [Nat.pow_add, Nat.mul_comm]
    exact Nat.mul_lt_mul_of_pos_left fits (Nat.two_pow_pos shift)
  obtain ⟨rest, split⟩ := Nat.exists_eq_add_of_le (excessDigits_le small)
  unfold nearestCount
  dsimp only
  rw [Nat.mul_div_cancel _ positive, Nat.pow_eq]
  generalize excessDigits (significand * 2 ^ shift) = excess at *
  have regrouped : significand * 2 ^ shift * denominator =
      significand * 2 ^ rest * (denominator * 2 ^ excess) := by
    rw [split, Nat.pow_add]
    ring
  rw [regrouped, roundedQuotient_mul (Nat.mul_pos positive (Nat.two_pow_pos excess)), split,
    Nat.pow_add]
  ring

theorem dvd_nearestCount (large : 2 ^ (digits + 52) ≤ numerator / denominator) :
    2 ^ digits ∣ nearestCount numerator denominator :=
  (Nat.pow_dvd_pow 2 (le_excessDigits large)).trans (Nat.dvd_mul_left _ _)

theorem two_pow_le_of_excessDigits {count : Nat} (excessive : 0 < excessDigits count) :
    2 ^ (52 + excessDigits count) ≤ count := by
  unfold excessDigits at *
  have notZero : count ≠ 0 := by
    rintro rfl
    rw [Nat.log2_zero] at excessive
    omega
  exact (Nat.le_log2 notZero).mp (by omega)

/-- The nearest count does not fall below a count of few enough digits. -/
theorem le_nearestCount (positive : 0 < denominator) {significand shift : Nat}
    (fits : significand < 2 ^ 53)
    (atMost : significand * 2 ^ shift * denominator ≤ numerator) :
    significand * 2 ^ shift ≤ nearestCount numerator denominator := by
  have atMostFloor : significand * 2 ^ shift ≤ numerator / denominator :=
    (Nat.le_div_iff_mul_le positive).mpr atMost
  have floored : numerator / denominator / 2 ^ excessDigits (numerator / denominator) *
      2 ^ excessDigits (numerator / denominator) ≤ nearestCount numerator denominator := by
    rw [Nat.div_div_eq_div_mul]
    exact Nat.mul_le_mul_right _ (div_le_roundedQuotient _ _)
  refine le_trans ?_ floored
  have large := @two_pow_le_of_excessDigits (numerator / denominator)
  generalize numerator / denominator = floor at *
  generalize excessDigits floor = excess at *
  -- A finer shift leaves the count below all of 53 digits; any other is on the spacing.
  rcases Nat.lt_or_ge shift excess with finer | aligned
  · have digits : 2 ^ 52 ≤ floor / 2 ^ excess := by
      rw [Nat.le_div_iff_mul_le (Nat.two_pow_pos excess), ← Nat.pow_add]
      exact large (by omega)
    calc significand * 2 ^ shift
        ≤ 2 ^ 53 * 2 ^ shift := Nat.mul_le_mul_right _ fits.le
      _ = 2 ^ 52 * 2 ^ (shift + 1) := by rw [Nat.pow_succ]; ring
      _ ≤ 2 ^ 52 * 2 ^ excess :=
        Nat.mul_le_mul_left _ (Nat.pow_le_pow_right Nat.two_pos finer)
      _ ≤ floor / 2 ^ excess * 2 ^ excess := Nat.mul_le_mul_right _ digits
  · obtain ⟨rest, rfl⟩ := Nat.exists_eq_add_of_le aligned
    have regrouped : significand * 2 ^ (excess + rest) =
        significand * 2 ^ rest * 2 ^ excess := by
      rw [Nat.pow_add]
      ring
    rw [regrouped] at atMostFloor ⊢
    exact Nat.mul_le_mul_right _
      ((Nat.le_div_iff_mul_le (Nat.two_pow_pos excess)).mpr atMostFloor)

end Counts

end Binary64

end Criteria
