import Mathlib.Tactic.LinearCombination
import Criteria.Proofs.Number.Exactness
import Criteria.Proofs.Number.Nearness

/-!
# Epoch milliseconds

A number of milliseconds is read through the nearest binary number of seconds.  What
that misses grows with the number: up to the year 2242 it is less than half a
microsecond and rounding restores the millisecond; later it is 15 microseconds at most.
-/

namespace Criteria

namespace Binary64

/-- The steps of a unit, cut into two powers. -/
theorem stepsPerUnit_eq {low high : Nat} (sum : low + high = 1074) :
    stepsPerUnit = 2 ^ low * 2 ^ high := by
  unfold stepsPerUnit
  rw [← sum]
  exact Nat.pow_add 2 low high

section Seconds

variable {steps target : Nat} {slack : ℚ}

/-- The count whose fraction of a unit is rounded to microseconds. -/
def fractionCount (steps : Nat) : Nat :=
  nearestCount (steps % stepsPerUnit * 1000000) 1

/-- The microseconds of the whole seconds and of the fraction, before the last
rounding, are this close to those of the number. -/
def FractionWithin (slack : ℚ) (steps : Nat) : Prop :=
  |((steps / stepsPerUnit * 1000000 : Nat) + fractionCount steps / stepsPerUnit : ℚ) -
    1000000 * (steps / stepsPerUnit)| ≤ slack

theorem stepsPerUnit_cast_pos : (0 : ℚ) < stepsPerUnit :=
  Nat.cast_pos.mpr stepsPerUnit_pos

theorem fractionWithin_of_near
    (near : |(fractionCount steps : ℚ) - (steps % stepsPerUnit * 1000000 : Nat)| ≤
      slack * stepsPerUnit) : FractionWithin slack steps := by
  have scale := stepsPerUnit_cast_pos
  have divided : (steps : ℚ) =
      (steps / stepsPerUnit : Nat) * stepsPerUnit + (steps % stepsPerUnit : Nat) := by
    exact_mod_cast (Nat.div_add_mod' steps stepsPerUnit).symm
  have offBy : ((steps / stepsPerUnit * 1000000 : Nat) + fractionCount steps / stepsPerUnit : ℚ) -
      1000000 * (steps / stepsPerUnit) =
        (fractionCount steps - (steps % stepsPerUnit * 1000000 : Nat)) / stepsPerUnit := by
    rw [eq_div_iff scale.ne', sub_mul, add_mul, div_mul_cancel₀ _ scale.ne', mul_assoc,
      div_mul_cancel₀ _ scale.ne']
    push_cast
    linear_combination (-1000000 : ℚ) * divided
  rw [FractionWithin, offBy, abs_div, abs_of_pos scale, div_le_iff₀ scale]
  exact near

theorem fractionWithin (steps : Nat) : FractionWithin (1 / 2 ^ 34) steps := by
  obtain ⟨digits, sum⟩ : ∃ digits, digits + 33 = 1074 := ⟨1041, rfl⟩
  have unit := stepsPerUnit_eq sum
  have small : steps % stepsPerUnit * 1000000 / 1 < 2 ^ (digits + 53) := by
    have rest := Nat.mod_lt steps stepsPerUnit_pos
    rw [Nat.div_one]
    calc steps % stepsPerUnit * 1000000
        < stepsPerUnit * 1000000 := Nat.mul_lt_mul_of_pos_right rest (by decide)
      _ ≤ stepsPerUnit * 2 ^ 20 := Nat.mul_le_mul_left _ (by decide)
      _ = 2 ^ (digits + 53) := by rw [unit, Nat.mul_assoc, ← Nat.pow_add, ← Nat.pow_add]
  have near := nearestCount_near Nat.one_pos small
  rw [Nat.cast_one, div_one] at near
  apply fractionWithin_of_near
  refine near.trans (le_of_eq ?_)
  rw [unit]
  push_cast
  ring

/-- The microseconds are off by half of one at most, besides the slack. -/
theorem secondsToMicroseconds_near (within : FractionWithin slack steps) :
    |(secondsToMicroseconds steps : ℚ) - 1000000 * (steps / stepsPerUnit)| ≤ 1 / 2 + slack := by
  have rounded := roundedQuotient_near stepsPerUnit_pos (fractionCount steps)
  have split : (secondsToMicroseconds steps : ℚ) =
      (steps / stepsPerUnit * 1000000 : Nat) +
        roundedQuotient (fractionCount steps) stepsPerUnit := by
    exact_mod_cast rfl
  rw [FractionWithin, abs_le] at within
  rw [abs_le] at rounded
  rw [split, abs_le]
  constructor <;> linarith

/-- An even number of microseconds is restored. -/
theorem secondsToMicroseconds_eq_of_even (within : FractionWithin slack steps)
    (even : target % 2 = 0)
    (near : |1000000 * (steps / stepsPerUnit : ℚ) - target| ≤ 1 / 2 - slack) :
    secondsToMicroseconds steps = target := by
  have scale := stepsPerUnit_cast_pos
  rw [FractionWithin, abs_le] at within
  rw [abs_le] at near
  have notNegative : (0 : ℚ) ≤ fractionCount steps / stepsPerUnit :=
    div_nonneg (Nat.cast_nonneg _) scale.le
  have wholeRat : ((steps / stepsPerUnit * 1000000 : Nat) : ℚ) < target + 1 := by linarith
  have whole : steps / stepsPerUnit * 1000000 ≤ target := by
    have : steps / stepsPerUnit * 1000000 < target + 1 := by exact_mod_cast wholeRat
    omega
  have rest : roundedQuotient (fractionCount steps) stepsPerUnit =
      target - steps / stepsPerUnit * 1000000 := by
    apply roundedQuotient_eq_of_even stepsPerUnit_pos
    · omega
    · rw [Nat.cast_sub whole, abs_le]
      constructor <;> linarith
  have split : secondsToMicroseconds steps = steps / stepsPerUnit * 1000000 +
      roundedQuotient (fractionCount steps) stepsPerUnit := rfl
  rw [split, rest]
  omega

/-- What is a multiple of a step coarse enough has an exact fraction. -/
theorem fractionWithin_of_dvd {low high : Nat} (sum : low + high = 1074) (few : high ≤ 33)
    (aligned : 2 ^ low ∣ steps) : FractionWithin 0 steps := by
  have unit := stepsPerUnit_eq sum
  obtain ⟨significand, rest⟩ : 2 ^ low ∣ steps % stepsPerUnit :=
    (Nat.dvd_mod_iff ⟨_, unit⟩).mpr aligned
  have restSmall := Nat.mod_lt steps stepsPerUnit_pos
  rw [rest, unit] at restSmall
  have small : significand < 2 ^ high := Nat.lt_of_mul_lt_mul_left restSmall
  have fits : significand * 1000000 < 2 ^ 53 := by
    have := Nat.pow_le_pow_right Nat.two_pos few
    omega
  have exact : fractionCount steps = steps % stepsPerUnit * 1000000 := by
    have kept := nearestCount_mul Nat.one_pos low fits
    have regrouped : 2 ^ low * significand * 1000000 = significand * 1000000 * 2 ^ low := by ring
    rw [fractionCount, rest, regrouped, ← Nat.mul_one (significand * 1000000 * 2 ^ low), kept,
      Nat.mul_one]
  apply fractionWithin_of_near
  rw [exact, sub_self, abs_zero, zero_mul]

end Seconds

section Quotient

variable {milliseconds : Nat}

/-- The count of the seconds nearest to a number of milliseconds. -/
def secondsCount (milliseconds : Nat) : Nat :=
  nearestCount (milliseconds * stepsPerUnit) 1000

theorem secondsCount_near {magnitude : Nat} (bound : milliseconds < 2 ^ magnitude * 1000) :
    |(secondsCount milliseconds / stepsPerUnit - milliseconds / 1000 : ℚ)| ≤
      2 ^ magnitude / 2 ^ 54 := by
  obtain ⟨digits, sum⟩ : ∃ digits, digits + 53 = 1074 := ⟨1021, rfl⟩
  have unit := stepsPerUnit_eq sum
  have scale := stepsPerUnit_cast_pos
  have small : milliseconds * stepsPerUnit / 1000 < 2 ^ (magnitude + digits + 53) := by
    rw [Nat.div_lt_iff_lt_mul (by decide)]
    calc milliseconds * stepsPerUnit
        < 2 ^ magnitude * 1000 * stepsPerUnit :=
          Nat.mul_lt_mul_of_pos_right bound stepsPerUnit_pos
      _ = 2 ^ (magnitude + digits + 53) * 1000 := by
        rw [unit, Nat.pow_add, Nat.pow_add]
        ring
  have near := @nearestCount_near (milliseconds * stepsPerUnit) 1000 (magnitude + digits)
    (by decide) small
  have offBy : (secondsCount milliseconds / stepsPerUnit - milliseconds / 1000 : ℚ) =
      (secondsCount milliseconds - (milliseconds * stepsPerUnit : Nat) / (1000 : Nat)) /
        stepsPerUnit := by
    rw [eq_div_iff scale.ne', sub_mul, div_mul_cancel₀ _ scale.ne']
    push_cast
    ring
  rw [offBy, abs_div, abs_of_pos scale, div_le_iff₀ scale]
  refine near.trans (le_of_eq ?_)
  rw [unit]
  push_cast
  ring

/-- From `2 ^ magnitude` seconds on, the seconds are a multiple of a coarser step. -/
theorem dvd_secondsCount {magnitude low high : Nat} (sum : low + high = 1074)
    (digits : magnitude + high = 52) (bound : 2 ^ magnitude * 1000 ≤ milliseconds) :
    2 ^ low ∣ secondsCount milliseconds := by
  apply dvd_nearestCount
  rw [Nat.le_div_iff_mul_le (by decide), ← digits, stepsPerUnit_eq sum]
  calc 2 ^ (low + (magnitude + high)) * 1000
      = 2 ^ magnitude * 1000 * (2 ^ low * 2 ^ high) := by
        rw [Nat.pow_add, Nat.pow_add]
        ring
    _ ≤ milliseconds * (2 ^ low * 2 ^ high) := Nat.mul_le_mul_right _ bound

/-- Seconds with few binary digits are exact. -/
theorem secondsCount_eq {significand low high : Nat} (sum : low + high = 1074)
    (fits : significand < 2 ^ 53) (exact : significand * 1000 = milliseconds * 2 ^ high) :
    secondsCount milliseconds = significand * 2 ^ low := by
  have regrouped : milliseconds * stepsPerUnit = significand * 2 ^ low * 1000 := by
    rw [stepsPerUnit_eq sum, Nat.mul_left_comm, ← exact]
    ring
  rw [secondsCount, regrouped]
  exact nearestCount_mul (by decide) low fits

/-- Rounding does not cross seconds with few binary digits. -/
theorem le_secondsCount {significand low high : Nat} (sum : low + high = 1074)
    (fits : significand < 2 ^ 53) (atMost : significand * 1000 ≤ milliseconds * 2 ^ high) :
    (significand / 2 ^ high : ℚ) ≤ secondsCount milliseconds / stepsPerUnit := by
  have counts : significand * 2 ^ low ≤ secondsCount milliseconds := by
    apply le_nearestCount (by decide) fits
    calc significand * 2 ^ low * 1000
        = significand * 1000 * 2 ^ low := Nat.mul_right_comm _ _ _
      _ ≤ milliseconds * 2 ^ high * 2 ^ low := Nat.mul_le_mul_right _ atMost
      _ = milliseconds * stepsPerUnit := by
        rw [stepsPerUnit_eq sum]
        ring
  have countsRat : (significand * 2 ^ low : ℚ) ≤ secondsCount milliseconds := by
    exact_mod_cast counts
  rw [le_div_iff₀ stepsPerUnit_cast_pos, stepsPerUnit_eq sum]
  push_cast
  refine le_trans (le_of_eq ?_) countsRat
  rw [mul_comm (2 ^ low : ℚ), ← mul_assoc, div_mul_cancel₀ _ (by positivity)]

end Quotient

section Microseconds

variable {milliseconds : Nat}

/-- The seconds are at most half a microsecond away from the milliseconds. -/
def SecondsClose (milliseconds : Nat) : Prop :=
  |(secondsCount milliseconds / stepsPerUnit - milliseconds / 1000 : ℚ)| ≤ 1 / 2000000

/-- Where the instants of the calendar lie, which ends with the year 9999. -/
def Bounded (milliseconds : Nat) : Prop :=
  milliseconds < 2 ^ 38 * 1000

theorem secondsClose_of_early (early : milliseconds < 2 ^ 33 * 1000) :
    SecondsClose milliseconds :=
  (secondsCount_near early).trans (by norm_num)

/-- An eighth of a second is a binary fraction. -/
theorem secondsClose_of_eighths (bounded : Bounded milliseconds)
    (eighths : 125 ∣ milliseconds) : SecondsClose milliseconds := by
  obtain ⟨count, rfl⟩ := eighths
  obtain ⟨low, sum⟩ : ∃ low, low + 3 = 1074 := ⟨1071, rfl⟩
  have exact : secondsCount (125 * count) = count * 2 ^ low := by
    apply secondsCount_eq sum
    · unfold Bounded at bounded
      omega
    · ring
  have same : (secondsCount (125 * count) / stepsPerUnit : ℚ) = (125 * count : Nat) / 1000 := by
    rw [exact, stepsPerUnit_eq sum]
    push_cast
    rw [div_eq_div_iff (by positivity) (by norm_num)]
    ring
  rw [SecondsClose, same, sub_self, abs_zero]
  norm_num

/-- Once the seconds can be half a microsecond off, their fraction is exact. -/
theorem early_or_fraction_exact (milliseconds : Nat) :
    milliseconds < 2 ^ 33 * 1000 ∨ FractionWithin 0 (secondsCount milliseconds) := by
  refine (Nat.lt_or_ge milliseconds (2 ^ 33 * 1000)).imp_right fun late => ?_
  obtain ⟨low, sum⟩ : ∃ low, low + 19 = 1074 := ⟨1055, rfl⟩
  exact fractionWithin_of_dvd sum (by decide) (dvd_secondsCount sum rfl late)

theorem scaled_seconds (milliseconds : Nat) :
    |1000000 * (secondsCount milliseconds / stepsPerUnit : ℚ) - (1000 * milliseconds : Nat)| =
      1000000 * |(secondsCount milliseconds / stepsPerUnit - milliseconds / 1000 : ℚ)| := by
  have scaled : 1000000 * (secondsCount milliseconds / stepsPerUnit : ℚ) -
      (1000 * milliseconds : Nat) =
        1000000 * (secondsCount milliseconds / stepsPerUnit - milliseconds / 1000) := by
    push_cast
    ring
  rw [scaled, abs_mul, abs_of_pos (by norm_num : (0 : ℚ) < 1000000)]

/-- The milliseconds are restored if and only if the seconds are close to them. -/
theorem secondsToMicroseconds_eq_iff (milliseconds : Nat) :
    secondsToMicroseconds (secondsCount milliseconds) = 1000 * milliseconds ↔
      SecondsClose milliseconds := by
  have even : 1000 * milliseconds % 2 = 0 := by omega
  -- Early seconds are always close; later on the last rounding is the only other one.
  rcases early_or_fraction_exact milliseconds with early | exact
  · have near := secondsCount_near early
    refine iff_of_true ?_ (secondsClose_of_early early)
    apply secondsToMicroseconds_eq_of_even (fractionWithin _) even
    rw [scaled_seconds]
    linarith
  · constructor
    · intro restored
      have near := secondsToMicroseconds_near exact
      rw [restored, abs_sub_comm, scaled_seconds] at near
      unfold SecondsClose
      linarith
    · intro close
      unfold SecondsClose at close
      apply secondsToMicroseconds_eq_of_even exact even
      rw [scaled_seconds]
      linarith

/-- What is off by less than 16 microseconds is off by 15 at most. -/
theorem within_of_near {microseconds : Nat} {seconds : ℚ}
    (rounded : |(microseconds : ℚ) - 1000000 * seconds| ≤ 1 / 2 + 1 / 2 ^ 34)
    (near : |seconds - milliseconds / 1000| ≤ 2 ^ 38 / 2 ^ 54) :
    |(microseconds - 1000 * milliseconds : Int)| ≤ 15 := by
  rw [abs_le] at rounded near
  have close : |(microseconds - 1000 * milliseconds : ℚ)| < 16 := by
    rw [abs_lt]
    constructor <;> linarith
  have closeInt : |(microseconds - 1000 * milliseconds : Int)| < 16 := by
    exact_mod_cast close
  exact Int.lt_add_one_iff.mp closeInt

theorem secondsToMicroseconds_within (bounded : Bounded milliseconds) :
    |(secondsToMicroseconds (secondsCount milliseconds) - 1000 * milliseconds : Int)| ≤ 15 :=
  within_of_near (secondsToMicroseconds_near (fractionWithin _)) (secondsCount_near bounded)

/-- But for the last rounding the microseconds do not fall below seconds with few
binary digits either. -/
theorem lt_secondsToMicroseconds {significand low high : Nat} (sum : low + high = 1074)
    (fits : significand < 2 ^ 53) (atMost : significand * 1000 ≤ milliseconds * 2 ^ high) :
    (1000000 * (significand / 2 ^ high) - 1 : ℚ) <
      secondsToMicroseconds (secondsCount milliseconds) := by
  have seconds := le_secondsCount sum fits atMost
  have rounded := abs_le.mp
    (secondsToMicroseconds_near (fractionWithin (secondsCount milliseconds)))
  linarith

/-- No number of the calendar's seconds is out of the format's range. -/
theorem secondsCount_lt_stepLimit (bounded : Bounded milliseconds) :
    secondsCount milliseconds < stepLimit := by
  have scale := stepsPerUnit_cast_pos
  have near := (abs_le.mp (secondsCount_near bounded)).2
  have boundedRat : (milliseconds : ℚ) < 2 ^ 38 * 1000 := by exact_mod_cast bounded
  have seconds : (secondsCount milliseconds / stepsPerUnit : ℚ) < 2 ^ 39 := by linarith
  rw [div_lt_iff₀ scale] at seconds
  have counts : secondsCount milliseconds < 2 ^ 39 * stepsPerUnit := by exact_mod_cast seconds
  obtain ⟨unit, limit, unitIs, limitIs⟩ : ∃ unit limit, unit = 1074 ∧ limit = 2098 :=
    ⟨1074, 2098, rfl, rfl⟩
  refine Nat.lt_of_lt_of_le counts ?_
  unfold stepsPerUnit stepLimit
  rw [← unitIs, ← limitIs, Nat.pow_eq, Nat.pow_eq, ← Nat.pow_add]
  exact Nat.pow_le_pow_right Nat.two_pos (by omega)

end Microseconds

section Signs

variable {negative : Bool}

theorem signed_natAbs (value : Int) : signed (decide (value < 0)) value.natAbs = value := by
  unfold signed
  split
  · next below =>
      have := of_decide_eq_true below
      omega
  · next notBelow =>
      have := of_decide_eq_false (Bool.not_eq_true _ ▸ notBelow)
      omega

theorem signed_mul_natAbs (factor : Nat) (value : Int) :
    signed (decide (value < 0)) (factor * value.natAbs) = factor * value := by
  conv_rhs => rw [← signed_natAbs value]
  unfold signed
  split
  · rw [Nat.cast_mul, mul_neg]
  · rw [Nat.cast_mul]

theorem signed_inj {count other : Nat} :
    signed negative count = signed negative other ↔ count = other := by
  cases negative <;> simp [signed]

theorem abs_signed_sub (count other : Nat) :
    |signed negative count - signed negative other| = |(count - other : Int)| := by
  cases negative with
  | false => rfl
  | true =>
      rw [signed, signed, if_pos rfl, if_pos rfl, ← abs_neg, neg_sub_neg, neg_sub]

end Signs

end Binary64

namespace Instant

variable {milliseconds : Int}

/-- The microseconds that an integer of milliseconds is read as. -/
def epochMicroseconds (milliseconds : Int) : Int :=
  Binary64.signed (decide (milliseconds < 0))
    (Binary64.secondsToMicroseconds (Binary64.secondsCount milliseconds.natAbs))

/-- The milliseconds from the start of the year 1 to the end of the year 9999. -/
def CalendarMilliseconds (milliseconds : Int) : Prop :=
  -62135596800000 ≤ milliseconds ∧ milliseconds < 253402300800000

theorem inCalendar_iff {microseconds : Int} :
    inCalendar microseconds = true ↔
      -62135596800000000 ≤ microseconds ∧ microseconds < 253402300800000000 := by
  have first : localMicroseconds 0 .midnight = -62135596800000000 := by decide
  have last : localMicroseconds Date.dayLimit .midnight = 253402300800000000 := by decide
  rw [inCalendar, first, last, Bool.and_eq_true, decide_eq_true_iff, decide_eq_true_iff]

/-- The calendar's milliseconds are within the bounds of its seconds. -/
theorem CalendarMilliseconds.bounded (inside : CalendarMilliseconds milliseconds) :
    Binary64.Bounded milliseconds.natAbs := by
  unfold CalendarMilliseconds at inside
  unfold Binary64.Bounded
  omega

theorem epochMicroseconds_eq_iff :
    epochMicroseconds milliseconds = 1000 * milliseconds ↔
      Binary64.SecondsClose milliseconds.natAbs := by
  have scaled := Binary64.signed_mul_natAbs 1000 milliseconds
  rw [Nat.cast_ofNat] at scaled
  rw [epochMicroseconds, ← scaled, Binary64.signed_inj]
  exact Binary64.secondsToMicroseconds_eq_iff _

theorem epochMicroseconds_within (bounded : Binary64.Bounded milliseconds.natAbs) :
    |epochMicroseconds milliseconds - 1000 * milliseconds| ≤ 15 := by
  have scaled := Binary64.signed_mul_natAbs 1000 milliseconds
  have within := Binary64.secondsToMicroseconds_within bounded
  rw [Nat.cast_ofNat] at scaled
  rw [epochMicroseconds, ← scaled, Binary64.abs_signed_sub, Nat.cast_mul, Nat.cast_ofNat]
  exact within

theorem CalendarMilliseconds.inCalendar (inside : CalendarMilliseconds milliseconds) :
    inCalendar (epochMicroseconds milliseconds) = true := by
  have within := abs_le.mp (epochMicroseconds_within inside.bounded)
  -- Only the first millisecond is within 15 microseconds of the calendar's ends.
  have first : milliseconds = -62135596800000 →
      epochMicroseconds milliseconds = 1000 * milliseconds := by
    intro start
    refine epochMicroseconds_eq_iff.mpr (Binary64.secondsClose_of_eighths inside.bounded ?_)
    rw [start]
    decide
  rw [inCalendar_iff]
  unfold CalendarMilliseconds at inside
  generalize epochMicroseconds milliseconds = microseconds at *
  omega

/-- After the year 9999 the seconds are late as well. -/
theorem not_inCalendar_of_late (late : 253402300800000 ≤ milliseconds) :
    ¬inCalendar (epochMicroseconds milliseconds) = true := by
  have above := @Binary64.lt_secondsToMicroseconds milliseconds.natAbs 253402300800 1074 0
    rfl (by decide) (by omega)
  have notNegative : ¬milliseconds < 0 := by omega
  rw [inCalendar_iff, epochMicroseconds, decide_eq_false notNegative]
  generalize Binary64.secondsToMicroseconds _ = microseconds at *
  have aboveNat : 253402300800000000 < microseconds + 1 := by
    have : (253402300800000000 : ℚ) < microseconds + 1 := by linarith
    exact_mod_cast this
  simp only [Binary64.signed, Bool.false_eq_true, if_false]
  omega

/-- Before the year 1 the seconds are early as well, by the next binary fraction. -/
theorem not_inCalendar_of_early (early : milliseconds < -62135596800000) :
    ¬inCalendar (epochMicroseconds milliseconds) = true := by
  have above := @Binary64.lt_secondsToMicroseconds milliseconds.natAbs 127253702246401 1063 11
    rfl (by decide) (by omega)
  have negative : milliseconds < 0 := by omega
  rw [inCalendar_iff, epochMicroseconds, decide_eq_true negative]
  generalize Binary64.secondsToMicroseconds _ = microseconds at *
  have aboveNat : 62135596800000000 < microseconds := by
    have : (62135596800000000 : ℚ) < microseconds := by linarith
    exact_mod_cast this
  simp only [Binary64.signed, if_true]
  omega

theorem inCalendar_epochMicroseconds_iff :
    inCalendar (epochMicroseconds milliseconds) = true ↔ CalendarMilliseconds milliseconds := by
  refine ⟨fun inside => ?_, CalendarMilliseconds.inCalendar⟩
  by_contra outside
  unfold CalendarMilliseconds at outside
  by_cases early : milliseconds < -62135596800000
  · exact not_inCalendar_of_early early inside
  · exact not_inCalendar_of_late (by omega) inside

theorem dividedBy_integer (milliseconds : Int) :
    (Number.integer milliseconds).dividedBy 1000 =
      if Binary64.secondsCount milliseconds.natAbs < Binary64.stepLimit then
        .finite (decide (milliseconds < 0)) (Binary64.secondsCount milliseconds.natAbs)
      else .infinite (decide (milliseconds < 0)) :=
  rfl

/-- An integer of milliseconds is an instant if and only if it falls into the calendar. -/
theorem ofEpochMilliseconds?_integer {instant : Instant} :
    ofEpochMilliseconds? (.integer milliseconds) = some instant ↔
      CalendarMilliseconds milliseconds ∧ instant = ⟨epochMicroseconds milliseconds, 0⟩ := by
  have read : ofSeconds? (.finite (decide (milliseconds < 0))
      (Binary64.secondsCount milliseconds.natAbs)) =
        if inCalendar (epochMicroseconds milliseconds) then
          some ⟨epochMicroseconds milliseconds, 0⟩
        else none := rfl
  rw [ofEpochMilliseconds?_eq, dividedBy_integer]
  by_cases inside : CalendarMilliseconds milliseconds
  · rw [if_pos (Binary64.secondsCount_lt_stepLimit inside.bounded), read,
      if_pos inside.inCalendar, Option.some_inj, and_iff_right inside]
    exact eq_comm
  · refine iff_of_false ?_ fun accepted => inside accepted.1
    split
    · rw [read, if_neg (mt inCalendar_epochMicroseconds_iff.mp inside)]
      exact Option.some_ne_none instant ∘ Eq.symm
    · exact Option.some_ne_none instant ∘ Eq.symm

/-- The binary number of seconds is at most half a microsecond away from the
milliseconds. -/
def SecondsNear (milliseconds : Int) : Prop :=
  ∃ seconds : ℚ,
    (Number.binary ((Number.integer milliseconds).dividedBy 1000)).exactValue? =
      some (seconds : WithTop ℚ) ∧
    |seconds - milliseconds / 1000| ≤ 1 / 2000000

theorem abs_signed_seconds (negative : Bool) (count steps : Nat) :
    |(Binary64.signed negative count / Binary64.stepsPerUnit -
        Binary64.signed negative steps / 1000 : ℚ)| =
      |(count / Binary64.stepsPerUnit - steps / 1000 : ℚ)| := by
  cases negative with
  | false => rfl
  | true =>
      rw [Binary64.signed, Binary64.signed, if_pos rfl, if_pos rfl, ← abs_neg]
      push_cast
      congr 1
      ring

theorem secondsNear_iff (bounded : Binary64.Bounded milliseconds.natAbs) :
    SecondsNear milliseconds ↔ Binary64.SecondsClose milliseconds.natAbs := by
  have same := abs_signed_seconds (decide (milliseconds < 0))
    (Binary64.secondsCount milliseconds.natAbs) milliseconds.natAbs
  rw [Binary64.signed_natAbs] at same
  rw [SecondsNear, dividedBy_integer, if_pos (Binary64.secondsCount_lt_stepLimit bounded),
    Binary64.SecondsClose, ← same]
  constructor
  · rintro ⟨seconds, value, near⟩
    obtain rfl := WithTop.coe_injective (WithBot.coe_injective (Option.some.inj value))
    exact near
  · exact fun near => ⟨_, rfl, near⟩

end Instant

end Criteria
