import Criteria.Proofs.Number.Exactness

/-!
# Order of numbers

Numbers of either format are ordered by their exact values.  The undefined number has
none and stands in no order, not even to itself; of any two others exactly one is the
less, unless they are equal.
-/

namespace Criteria

theorem Place.less_iff {left right : Place} :
    left.less right = true ↔ left.value < right.value := by
  have scalePositive : (0 : ℚ) < Binary64.stepsPerUnit :=
    Nat.cast_pos.mpr Binary64.stepsPerUnit_pos
  cases left with
  | lowest =>
      cases right with
      | lowest => simp [less]
      | steps count => exact iff_of_true rfl (WithBot.bot_lt_coe _)
      | highest => exact iff_of_true rfl (WithBot.bot_lt_coe _)
  | steps count =>
      cases right with
      | lowest => exact iff_of_false Bool.false_ne_true not_lt_bot
      | steps other =>
          simp only [less, decide_eq_true_eq, value, WithBot.coe_lt_coe, WithTop.coe_lt_coe]
          rw [div_lt_div_iff_of_pos_right scalePositive, Rat.intCast_lt_intCast]
      | highest =>
          exact iff_of_true rfl (WithBot.coe_lt_coe.mpr (WithTop.coe_lt_top _))
  | highest =>
      refine iff_of_false Bool.false_ne_true (not_lt_of_ge ?_)
      cases right with
      | lowest => exact bot_le
      | steps count => exact WithBot.coe_le_coe.mpr le_top
      | highest => exact le_rfl

namespace Number

variable {left right : Number}

theorem exists_exactValue? {number : Number} (defined : number ≠ .binary .nan) :
    ∃ value, number.exactValue? = some value := by
  cases number with
  | integer value => exact ⟨_, rfl⟩
  | binary value =>
      rcases value with _ | (_ | _) | ⟨negative, steps⟩
      · exact absurd rfl defined
      all_goals exact ⟨_, rfl⟩

/-- Numbers are ordered by their exact values. -/
theorem less_iff_exact :
    left.less right = true ↔
      ∃ value other, left.exactValue? = some value ∧ right.exactValue? = some other ∧
        value < other := by
  rw [exactValue?_eq, exactValue?_eq, less, related]
  cases left.place? with
  | none => simp
  | some place =>
      cases right.place? with
      | none => simp
      | some otherPlace => simp [Place.less_iff]

theorem less_iff_of_exact {value other : WithBot (WithTop ℚ)}
    (leftValue : left.exactValue? = some value)
    (rightValue : right.exactValue? = some other) :
    left.less right = true ↔ value < other := by
  rw [less_iff_exact, leftValue, rightValue]
  simp

theorem equal_iff_of_exact {value other : WithBot (WithTop ℚ)}
    (leftValue : left.exactValue? = some value)
    (rightValue : right.exactValue? = some other) :
    left.equal right = true ↔ value = other := by
  rw [equal_iff_exact, leftValue, rightValue]
  simp [eq_comm]

/-- Of two defined numbers the one is at most the other if it is not the greater. -/
theorem lessOrEqual_eq_not_less (leftDefined : left ≠ .binary .nan)
    (rightDefined : right ≠ .binary .nan) : left.lessOrEqual right = !right.less left := by
  obtain ⟨value, leftValue⟩ := exists_exactValue? leftDefined
  obtain ⟨other, rightValue⟩ := exists_exactValue? rightDefined
  rw [exactValue?_eq] at leftValue rightValue
  obtain ⟨place, leftPlace, -⟩ := Option.map_eq_some_iff.mp leftValue
  obtain ⟨otherPlace, rightPlace, -⟩ := Option.map_eq_some_iff.mp rightValue
  rw [lessOrEqual, less, related, related, leftPlace, rightPlace]

theorem less_trans {middle : Number} (first : left.less middle = true)
    (second : middle.less right = true) : left.less right = true := by
  obtain ⟨value, between, leftValue, middleValue, below⟩ := less_iff_exact.mp first
  obtain ⟨other, last, otherValue, rightValue, above⟩ := less_iff_exact.mp second
  obtain rfl : between = other := Option.some.inj (middleValue.symm.trans otherValue)
  exact (less_iff_of_exact leftValue rightValue).mpr (below.trans above)

end Number

end Criteria
