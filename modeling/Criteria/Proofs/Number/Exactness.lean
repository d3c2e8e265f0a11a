import Mathlib.Algebra.Order.Field.Rat
import Mathlib.Order.WithBot
import Criteria.Proofs.Number.Equality

/-!
# Exact values of numbers

Every number but the undefined one has an exact value, a rational number or one
of the two ends of the line.  Numbers are equal if and only if they have the same
exact value, whatever their formats are.
-/

namespace Criteria

namespace Place

/-- The value at a place. -/
def value : Place → WithBot (WithTop ℚ)
  | .lowest => ⊥
  | .steps count => ((count / Binary64.stepsPerUnit : ℚ) : WithTop ℚ)
  | .highest => (⊤ : WithTop ℚ)

theorem stepsPerUnit_ne_zero : (Binary64.stepsPerUnit : ℚ) ≠ 0 :=
  Nat.cast_ne_zero.mpr Binary64.stepsPerUnit_pos.ne'

theorem value_injective : Function.Injective value := by
  intro left right same
  cases left with
  | steps count =>
      cases right with
      | steps other =>
          have quotients := WithTop.coe_injective (WithBot.coe_injective same)
          have counts := (div_left_inj' stepsPerUnit_ne_zero).mp quotients
          rw [Rat.intCast_inj.mp counts]
      | lowest => exact absurd same WithBot.coe_ne_bot
      | highest => exact absurd (WithBot.coe_injective same) WithTop.coe_ne_top
  | lowest =>
      cases right with
      | lowest => rfl
      | steps other => exact absurd same WithBot.bot_ne_coe
      | highest => exact absurd same WithBot.bot_ne_coe
  | highest =>
      cases right with
      | highest => rfl
      | steps other => exact absurd (WithBot.coe_injective same) WithTop.top_ne_coe
      | lowest => exact absurd same WithBot.coe_ne_bot

end Place

namespace Number

/-- The exact value of a number; the undefined number has none. -/
def exactValue? : Number → Option (WithBot (WithTop ℚ))
  | .integer value => some ((value : ℚ) : WithTop ℚ)
  | .binary .nan => none
  | .binary (.infinite true) => some ⊥
  | .binary (.infinite false) => some (⊤ : WithTop ℚ)
  | .binary (.finite negative steps) =>
      some ((Binary64.signed negative steps / Binary64.stepsPerUnit : ℚ) : WithTop ℚ)

theorem exactValue?_eq (number : Number) :
    number.exactValue? = number.place?.map Place.value := by
  cases number with
  | integer value =>
      have restored : ((value * Binary64.stepsPerUnit : Int) / Binary64.stepsPerUnit : ℚ) =
          value := by
        rw [Int.cast_mul, Int.cast_natCast]
        exact mul_div_cancel_right₀ _ Place.stepsPerUnit_ne_zero
      simp only [exactValue?, place?, Option.map_some, Place.value, restored]
  | binary value =>
      rcases value with _ | (_ | _) | ⟨negative, steps⟩ <;> rfl

/-- Numbers are compared by their exact values. -/
theorem equal_iff_exact {left right : Number} :
    left.equal right = true ↔
      ∃ value, left.exactValue? = some value ∧ right.exactValue? = some value := by
  rw [equal_iff, exactValue?_eq, exactValue?_eq]
  constructor
  · rintro ⟨place, leftPlace, rightPlace⟩
    rw [leftPlace, rightPlace]
    exact ⟨place.value, rfl, rfl⟩
  · rintro ⟨value, leftValue, rightValue⟩
    obtain ⟨place, leftPlace, rfl⟩ := Option.map_eq_some_iff.mp leftValue
    obtain ⟨other, rightPlace, same⟩ := Option.map_eq_some_iff.mp rightValue
    rw [Place.value_injective same] at rightPlace
    exact ⟨place, leftPlace, rightPlace⟩

end Number

end Criteria
