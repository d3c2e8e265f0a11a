import Criteria.Calendar.Epoch

/-!
# Equality of numbers

Numbers are equal if they have one place on the line of numbers.  Whatever is
decided by places does not tell equal numbers apart, nor does the reading of a
number as epoch milliseconds, although it treats the formats differently.
-/

namespace Criteria

namespace Number

theorem equal_iff {left right : Number} :
    left.equal right = true ↔
      ∃ place, left.place? = some place ∧ right.place? = some place := by
  unfold equal related
  cases left.place? with
  | none => simp
  | some leftPlace =>
      cases right.place? with
      | none => simp
      | some rightPlace => simp [eq_comm]

theorem equal_symm {left right : Number} (same : left.equal right = true) :
    right.equal left = true := by
  obtain ⟨place, leftPlace, rightPlace⟩ := equal_iff.mp same
  exact equal_iff.mpr ⟨place, rightPlace, leftPlace⟩

theorem place?_eq_of_equal {left right : Number} (same : left.equal right = true) :
    left.place? = right.place? := by
  obtain ⟨place, leftPlace, rightPlace⟩ := equal_iff.mp same
  rw [leftPlace, rightPlace]

theorem equal_trans {left middle right : Number}
    (first : left.equal middle = true) (second : middle.equal right = true) :
    left.equal right = true := by
  obtain ⟨place, middlePlace, rightPlace⟩ := equal_iff.mp second
  exact equal_iff.mpr
    ⟨place, (place?_eq_of_equal first).trans middlePlace, rightPlace⟩

theorem related_congr_left {left right : Number} (same : left.equal right = true)
    (relation : Place → Place → Bool) (other : Number) :
    related relation left other = related relation right other := by
  rw [related, related, place?_eq_of_equal same]

theorem related_congr_right {left right : Number} (same : left.equal right = true)
    (relation : Place → Place → Bool) (other : Number) :
    related relation other left = related relation other right := by
  rw [related, related, place?_eq_of_equal same]

end Number

theorem roundedQuotient_zero (denominator : Nat) :
    roundedQuotient 0 denominator = 0 := by
  simp [roundedQuotient]

namespace Binary64

theorem signed_zero (negative : Bool) : signed negative 0 = 0 := by
  cases negative <;> rfl

theorem natAbs_signed (negative : Bool) (steps : Nat) :
    (signed negative steps).natAbs = steps := by
  cases negative <;> simp [signed]

theorem decide_signed_neg (negative : Bool) (steps : Nat) :
    decide (signed negative (steps + 1) < 0) = negative := by
  cases negative <;> simp [signed] <;> omega

theorem decide_scaled_neg (value : Int) {scale : Nat} (positive : 0 < scale) :
    decide (value * scale < 0) = decide (value < 0) := by
  have scalePositive : (0 : Int) < scale := Int.natCast_pos.mpr positive
  have scaled := Int.mul_lt_mul_right (b := value) (c := 0) scalePositive
  rw [Int.zero_mul] at scaled
  exact decide_eq_decide.mpr scaled

theorem power_pos (exponent : Nat) : 0 < Nat.pow 2 exponent :=
  Nat.two_pow_pos exponent

theorem stepsPerUnit_pos : 0 < stepsPerUnit := by
  unfold stepsPerUnit
  apply power_pos

theorem stepLimit_pos : 0 < stepLimit := by
  unfold stepLimit
  apply power_pos

theorem nearestCount_zero (denominator : Nat) : nearestCount 0 denominator = 0 := by
  rw [nearestCount, roundedQuotient_zero, Nat.zero_mul]

theorem secondsToMicroseconds_zero : secondsToMicroseconds 0 = 0 := by
  simp only [secondsToMicroseconds, Nat.zero_div, Nat.zero_mod, Nat.zero_mul,
    nearestCount_zero, roundedQuotient_zero]

theorem ofCountQuotient_zero (negative : Bool) (denominator : Nat) :
    ofCountQuotient negative 0 denominator = .finite negative 0 := by
  simp only [ofCountQuotient, nearestCount_zero, if_pos stepLimit_pos]

end Binary64

namespace Instant

/-- The point in time of a binary number of seconds. -/
def ofSeconds? : Binary64 → Option Instant
  | .finite negative steps =>
      let microseconds := Binary64.signed negative (Binary64.secondsToMicroseconds steps)
      if inCalendar microseconds then some ⟨microseconds, 0⟩ else none
  | _ => none

theorem ofEpochMilliseconds?_eq (milliseconds : Number) :
    ofEpochMilliseconds? milliseconds = ofSeconds? (milliseconds.dividedBy 1000) := by
  unfold ofEpochMilliseconds? ofSeconds?
  cases milliseconds.dividedBy 1000 <;> rfl

/-- The sign of zero does not show in a point in time. -/
theorem ofSeconds?_ofCountQuotient_zero (negative : Bool) (divisor : Nat) :
    ofSeconds? (.ofCountQuotient negative 0 divisor) =
      ofSeconds? (.ofCountQuotient false 0 divisor) := by
  simp only [Binary64.ofCountQuotient_zero, ofSeconds?,
    Binary64.secondsToMicroseconds_zero, Binary64.signed_zero]

theorem ofEpochMilliseconds?_of_steps {milliseconds : Number} {count : Int}
    (place : milliseconds.place? = some (.steps count)) :
    ofEpochMilliseconds? milliseconds =
      ofSeconds? (.ofCountQuotient (decide (count < 0)) count.natAbs 1000) := by
  rw [ofEpochMilliseconds?_eq]
  cases milliseconds with
  | integer value =>
      cases place
      rw [Binary64.decide_scaled_neg value Binary64.stepsPerUnit_pos,
        Int.natAbs_mul, Int.natAbs_natCast]
      rfl
  | binary value =>
      cases value with
      | nan => cases place
      | infinite negative => cases negative <;> cases place
      | finite negative steps =>
          cases place
          -- The place shows the sign of every count but zero.
          cases steps with
          | zero =>
              rw [Binary64.signed_zero]
              exact ofSeconds?_ofCountQuotient_zero negative 1000
          | succ steps =>
              rw [Binary64.decide_signed_neg, Binary64.natAbs_signed]
              rfl

/-- No number at an end of the line is a point in time. -/
theorem ofEpochMilliseconds?_of_end {milliseconds : Number} {place : Place}
    (placed : milliseconds.place? = some place)
    (atEnd : place = .lowest ∨ place = .highest) :
    ofEpochMilliseconds? milliseconds = none := by
  cases milliseconds with
  | integer value => rcases atEnd with rfl | rfl <;> cases placed
  | binary value =>
      cases value with
      | nan => cases placed
      | infinite negative => rfl
      | finite negative steps => rcases atEnd with rfl | rfl <;> cases placed

theorem ofEpochMilliseconds?_congr {left right : Number}
    (same : left.equal right = true) :
    ofEpochMilliseconds? left = ofEpochMilliseconds? right := by
  obtain ⟨place, leftPlace, rightPlace⟩ := Number.equal_iff.mp same
  cases place with
  | steps count =>
      rw [ofEpochMilliseconds?_of_steps leftPlace,
        ofEpochMilliseconds?_of_steps rightPlace]
  | lowest =>
      rw [ofEpochMilliseconds?_of_end leftPlace (.inl rfl),
        ofEpochMilliseconds?_of_end rightPlace (.inl rfl)]
  | highest =>
      rw [ofEpochMilliseconds?_of_end leftPlace (.inr rfl),
        ofEpochMilliseconds?_of_end rightPlace (.inr rfl)]

end Instant

end Criteria
