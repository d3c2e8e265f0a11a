import Criteria.Proofs.Calendar.Epoch
import Criteria.Proofs.Number.Monotonicity
import Criteria.Proofs.Number.Order

/-!
# Order of epoch milliseconds

Every step of reading a number as milliseconds keeps the order: the rounded quotient,
the rounded fraction of a second, whose microseconds never exceed a second, and the
sign.  Hence a greater number is no earlier instant, a greater integer is a later one,
and what lies between two instants of the calendar is one.
-/

namespace Criteria

namespace Place

variable {left right : Place}

theorem value_le_iff : left.value ≤ right.value ↔ right.less left = false := by
  rw [← not_lt, ← less_iff, Bool.not_eq_true]

theorem steps_le_iff {count other : Int} :
    (Place.steps count).value ≤ (Place.steps other).value ↔ count ≤ other := by
  rw [value_le_iff, less, decide_eq_false_iff_not, Int.not_lt]

/-- Between two counts of steps there are only counts of steps. -/
theorem exists_steps_of_between {lower upper : Int} {place : Place}
    (above : (Place.steps lower).value ≤ place.value)
    (below : place.value ≤ (Place.steps upper).value) :
    ∃ count, place = .steps count ∧ lower ≤ count ∧ count ≤ upper := by
  cases place with
  | lowest => exact absurd (value_le_iff.mp above) Bool.true_eq_false.mp
  | steps count => exact ⟨count, rfl, steps_le_iff.mp above, steps_le_iff.mp below⟩
  | highest => exact absurd (value_le_iff.mp below) Bool.true_eq_false.mp

end Place

namespace Number

/-- The exact value of the one number is at most that of the other. -/
def AtMost (left right : Number) : Prop :=
  ∃ value other, left.exactValue? = some value ∧ right.exactValue? = some other ∧
    value ≤ other

theorem AtMost.value_le {left right : Number} (ordered : left.AtMost right)
    {place other : Place} (leftPlace : left.place? = some place)
    (rightPlace : right.place? = some other) : place.value ≤ other.value := by
  obtain ⟨value, otherValue, leftValue, rightValue, atMost⟩ := ordered
  rw [exactValue?_eq, leftPlace, Option.map_some, Option.some_inj] at leftValue
  rw [exactValue?_eq, rightPlace, Option.map_some, Option.some_inj] at rightValue
  rw [leftValue, rightValue]
  exact atMost

theorem AtMost.exists_place_left {left right : Number} (ordered : left.AtMost right) :
    ∃ place, left.place? = some place := by
  obtain ⟨value, other, leftValue, -, -⟩ := ordered
  rw [exactValue?_eq] at leftValue
  obtain ⟨place, found, -⟩ := Option.map_eq_some_iff.mp leftValue
  exact ⟨place, found⟩

theorem eq_nan_of_place? {number : Number} (unplaced : number.place? = none) :
    number = .binary .nan := by
  cases number with
  | integer value => cases unplaced
  | binary value =>
      rcases value with _ | (_ | _) | _
      · rfl
      all_goals cases unplaced

end Number

namespace Binary64

/-- The fraction of a second has no more microseconds than a second. -/
theorem roundedFraction_le (steps : Nat) :
    roundedQuotient (fractionCount steps) stepsPerUnit ≤ 1000000 := by
  obtain ⟨low, sum⟩ : ∃ low, low + 0 = 1074 := ⟨1074, rfl⟩
  have whole : nearestCount (stepsPerUnit * 1000000) 1 = 1000000 * stepsPerUnit := by
    have kept := @nearestCount_mul 1 Nat.one_pos 1000000 low (by decide)
    rw [Nat.mul_one] at kept
    rw [Nat.mul_comm, stepsPerUnit_eq sum, Nat.pow_zero, Nat.mul_one]
    exact kept
  have rest : steps % stepsPerUnit * 1000000 ≤ stepsPerUnit * 1000000 :=
    Nat.mul_le_mul_right _ (Nat.mod_lt _ stepsPerUnit_pos).le
  have count : fractionCount steps ≤ 1000000 * stepsPerUnit :=
    whole ▸ nearestCount_mono Nat.one_pos rest
  have rounded := roundedQuotient_mono stepsPerUnit_pos count
  rwa [roundedQuotient_mul stepsPerUnit_pos] at rounded

theorem secondsToMicroseconds_mono {left right : Nat} (ordered : left ≤ right) :
    secondsToMicroseconds left ≤ secondsToMicroseconds right := by
  change left / stepsPerUnit * 1000000 + roundedQuotient (fractionCount left) stepsPerUnit ≤
    right / stepsPerUnit * 1000000 + roundedQuotient (fractionCount right) stepsPerUnit
  have wholes : left / stepsPerUnit ≤ right / stepsPerUnit := Nat.div_le_div_right ordered
  rcases Nat.eq_or_lt_of_le wholes with same | later
  · have fractions : left % stepsPerUnit ≤ right % stepsPerUnit := by
      have leftDivided := Nat.div_add_mod' left stepsPerUnit
      have rightDivided := Nat.div_add_mod' right stepsPerUnit
      rw [same] at leftDivided
      omega
    rw [same]
    apply Nat.add_le_add_left
    apply roundedQuotient_mono stepsPerUnit_pos
    exact nearestCount_mono Nat.one_pos (Nat.mul_le_mul_right _ fractions)
  · -- A whole second more outweighs whatever the fraction is rounded to.
    have fraction := roundedFraction_le left
    calc left / stepsPerUnit * 1000000 + roundedQuotient (fractionCount left) stepsPerUnit
        ≤ left / stepsPerUnit * 1000000 + 1000000 := Nat.add_le_add_left fraction _
      _ = (left / stepsPerUnit + 1) * 1000000 := (Nat.add_one_mul _ _).symm
      _ ≤ right / stepsPerUnit * 1000000 := Nat.mul_le_mul_right _ later
      _ ≤ _ := Nat.le_add_right _ _

end Binary64

namespace Instant

/-- The microseconds that are read at a place on the line of numbers. -/
def placeMicroseconds (count : Int) : Int :=
  Binary64.signed (decide (count < 0))
    (Binary64.secondsToMicroseconds (Binary64.nearestCount count.natAbs 1000))

theorem placeMicroseconds_mono {lower upper : Int} (ordered : lower ≤ upper) :
    placeMicroseconds lower ≤ placeMicroseconds upper := by
  have growing {left right : Nat} (ordered : left ≤ right) :
      Binary64.secondsToMicroseconds (Binary64.nearestCount left 1000) ≤
        Binary64.secondsToMicroseconds (Binary64.nearestCount right 1000) :=
    Binary64.secondsToMicroseconds_mono (Binary64.nearestCount_mono (by decide) ordered)
  have signedGrowing := @Binary64.signed_mono
    (fun count => Binary64.secondsToMicroseconds (Binary64.nearestCount count 1000))
    growing lower upper ordered
  exact signedGrowing

/-- A place that is read as an instant: its seconds are finite and in the calendar. -/
def Legible (count : Int) : Prop :=
  Binary64.nearestCount count.natAbs 1000 < Binary64.stepLimit ∧
    inCalendar (placeMicroseconds count) = true

/-- What is legible at two places is legible between them. -/
theorem legible_of_between {lower count upper : Int} (above : lower ≤ count)
    (below : count ≤ upper) (lowerLegible : Legible lower) (upperLegible : Legible upper) :
    Legible count := by
  obtain ⟨lowerFinite, lowerInside⟩ := lowerLegible
  obtain ⟨upperFinite, upperInside⟩ := upperLegible
  constructor
  · by_cases negative : count < 0
    · have magnitudes : count.natAbs ≤ lower.natAbs := by omega
      exact Nat.lt_of_le_of_lt (Binary64.nearestCount_mono (by decide) magnitudes) lowerFinite
    · have magnitudes : count.natAbs ≤ upper.natAbs := by omega
      exact Nat.lt_of_le_of_lt (Binary64.nearestCount_mono (by decide) magnitudes) upperFinite
  · rw [inCalendar_iff] at lowerInside upperInside ⊢
    have fromLower := placeMicroseconds_mono above
    have toUpper := placeMicroseconds_mono below
    omega

theorem ofSeconds?_ofCountQuotient {count : Int} {instant : Instant} :
    ofSeconds? (.ofCountQuotient (decide (count < 0)) count.natAbs 1000) = some instant ↔
      Legible count ∧ instant = ⟨placeMicroseconds count, 0⟩ := by
  unfold Legible Binary64.ofCountQuotient
  dsimp only
  by_cases finite : Binary64.nearestCount count.natAbs 1000 < Binary64.stepLimit
  · rw [if_pos finite, and_iff_right finite]
    change (if inCalendar (placeMicroseconds count) = true then
      some (⟨placeMicroseconds count, 0⟩ : Instant) else none) = some instant ↔ _
    by_cases inside : inCalendar (placeMicroseconds count) = true
    · rw [if_pos inside, Option.some_inj, and_iff_right inside]
      exact eq_comm
    · rw [if_neg inside]
      exact iff_of_false nofun fun legible => inside legible.1
  · rw [if_neg finite]
    exact iff_of_false nofun fun legible => finite legible.1.1

/-- The instants of epoch milliseconds, format and sign of zero left aside. -/
theorem ofEpochMilliseconds?_eq_some_iff {number : Number} {instant : Instant} :
    ofEpochMilliseconds? number = some instant ↔
      ∃ count, number.place? = some (.steps count) ∧ Legible count ∧
        instant = ⟨placeMicroseconds count, 0⟩ := by
  constructor
  · intro read
    match placed : number.place? with
    | none =>
        obtain rfl : number = .binary .nan := Number.eq_nan_of_place? placed
        cases read
    | some (.steps count) =>
        rw [ofEpochMilliseconds?_of_steps placed] at read
        exact ⟨count, rfl, ofSeconds?_ofCountQuotient.mp read⟩
    | some .lowest =>
        rw [ofEpochMilliseconds?_of_end placed (.inl rfl)] at read
        cases read
    | some .highest =>
        rw [ofEpochMilliseconds?_of_end placed (.inr rfl)] at read
        cases read
  · rintro ⟨count, placed, legible⟩
    rw [ofEpochMilliseconds?_of_steps placed]
    exact ofSeconds?_ofCountQuotient.mpr legible

section Numbers

variable {lower number upper : Number} {earlier later : Instant}

/-- A greater number of milliseconds is no earlier instant. -/
theorem ofEpochMilliseconds?_mono (ordered : lower.AtMost upper)
    (lowerRead : ofEpochMilliseconds? lower = some earlier)
    (upperRead : ofEpochMilliseconds? upper = some later) :
    earlier.microseconds ≤ later.microseconds := by
  obtain ⟨count, lowerPlace, -, rfl⟩ := ofEpochMilliseconds?_eq_some_iff.mp lowerRead
  obtain ⟨other, upperPlace, -, rfl⟩ := ofEpochMilliseconds?_eq_some_iff.mp upperRead
  exact placeMicroseconds_mono (Place.steps_le_iff.mp (ordered.value_le lowerPlace upperPlace))

/-- A number between two that are instants is an instant. -/
theorem ofEpochMilliseconds?_between (above : lower.AtMost number) (below : number.AtMost upper)
    (lowerRead : ofEpochMilliseconds? lower = some earlier)
    (upperRead : ofEpochMilliseconds? upper = some later) :
    ∃ instant, ofEpochMilliseconds? number = some instant := by
  obtain ⟨first, lowerPlace, lowerLegible, -⟩ := ofEpochMilliseconds?_eq_some_iff.mp lowerRead
  obtain ⟨last, upperPlace, upperLegible, -⟩ := ofEpochMilliseconds?_eq_some_iff.mp upperRead
  obtain ⟨place, placed⟩ := below.exists_place_left
  obtain ⟨count, rfl, fromFirst, toLast⟩ := Place.exists_steps_of_between
    (above.value_le lowerPlace placed) (below.value_le placed upperPlace)
  exact ⟨_, ofEpochMilliseconds?_eq_some_iff.mpr
    ⟨count, placed, legible_of_between fromFirst toLast lowerLegible upperLegible, rfl⟩⟩

end Numbers

/-- Integers are further apart than what reading them misses. -/
theorem epochMicroseconds_lt_iff {left right : Int} (leftInside : CalendarMilliseconds left)
    (rightInside : CalendarMilliseconds right) :
    epochMicroseconds left < epochMicroseconds right ↔ left < right := by
  have leftWithin := abs_le.mp (epochMicroseconds_within leftInside.bounded)
  have rightWithin := abs_le.mp (epochMicroseconds_within rightInside.bounded)
  rcases eq_or_ne left right with rfl | different
  · exact iff_of_false (lt_irrefl _) (lt_irrefl _)
  · omega

end Instant

end Criteria
