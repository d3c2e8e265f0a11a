import Criteria.Proofs.Calendar.EpochOrder
import Criteria.Proofs.Condition.EpochMoments

/-!
# Order of epoch milliseconds in conditions

Numbers of milliseconds, of either format, are before and after each other as their
exact values are, up to numbers that are read as one instant; integers are never read
as one.  The numbers that are instants form an interval, which no number outside of the
calendar belongs to, and the other numbers are neither before nor after anything.
-/

namespace Criteria

namespace Value

variable {present : Instant}

/-- The value denotes a moment. -/
def HasMoment (present : Instant) (value : Value) : Prop :=
  ∃ instant, value.moment present = .ok (some instant)

theorem moment_number (number : Number) :
    (Value.number number).moment present = .ok (Instant.ofEpochMilliseconds? number) :=
  rfl

theorem compareMoments_numbers (relation : Int → Int → Bool) (left right : Number) :
    ∃ answer, compareMoments relation (.number left) present (.number right) = .ok answer := by
  unfold compareMoments
  rw [moment_number, moment_number]
  rcases Instant.ofEpochMilliseconds? left with _ | leftInstant
  · exact ⟨_, rfl⟩
  · rcases Instant.ofEpochMilliseconds? right with _ | rightInstant
    · exact ⟨_, rfl⟩
    · exact ⟨_, rfl⟩

theorem ofEpochMilliseconds?_of_moment {number : Number} {instant : Instant}
    (moment : (Value.number number).moment present = .ok (some instant)) :
    Instant.ofEpochMilliseconds? number = some instant := by
  rw [moment_number, Except.ok.injEq] at moment
  exact moment

theorem hasMoment_number_iff {number : Number} :
    (Value.number number).HasMoment present ↔
      ∃ instant, Instant.ofEpochMilliseconds? number = some instant := by
  simp only [HasMoment, moment_number, Except.ok.injEq]

theorem hasMoment_integer_iff {milliseconds : Int} :
    (Value.integer milliseconds).HasMoment present ↔
      Instant.CalendarMilliseconds milliseconds := by
  rw [integer, hasMoment_number_iff]
  simp only [Instant.ofEpochMilliseconds?_integer, exists_and_left, exists_eq, and_true]

theorem hasMoment_epoch : (Value.integer 0).HasMoment present :=
  hasMoment_integer_iff.mpr ⟨by decide, by decide⟩

theorem momentMicroseconds_number {number : Number} {instant : Instant}
    (moment : (Value.number number).moment present = .ok (some instant)) :
    (Value.number number).momentMicroseconds present = .ok (some instant.microseconds) := by
  rw [momentMicroseconds, moment]
  rfl

theorem momentMicroseconds_integer {milliseconds : Int}
    (moment : (Value.integer milliseconds).HasMoment present) :
    (Value.integer milliseconds).momentMicroseconds present =
      .ok (some (Instant.epochMicroseconds milliseconds)) := by
  have read := Instant.ofEpochMilliseconds?_integer.mpr
    ⟨hasMoment_integer_iff.mp moment, rfl⟩
  exact momentMicroseconds_number (congrArg Except.ok read)

theorem moment_of_not_hasMoment {number : Number}
    (notMoment : ¬(Value.number number).HasMoment present) :
    (Value.number number).moment present = .ok none := by
  rw [hasMoment_number_iff] at notMoment
  rw [moment_number, Option.eq_none_iff_forall_ne_some.mpr fun instant read =>
    notMoment ⟨instant, read⟩]

/-- What is no moment relates to nothing; the other side may still break down. -/
theorem compareMoments_of_no_moment {value other : Value}
    (noMoment : value.moment present = .ok none) (relation : Int → Int → Bool) :
    compareMoments relation value present other = (other.moment present).map (fun _ => false) ∧
      compareMoments relation other present value =
        (other.moment present).map (fun _ => false) := by
  unfold compareMoments
  rw [noMoment]
  rcases other.moment present with fault | (_ | instant)
  all_goals exact ⟨rfl, rfl⟩

end Value

namespace Number

variable {present : Instant}

/-- The moments are an interval of the line of numbers. -/
theorem hasMoment_between {lower number upper : Number}
    (lowerMoment : (Value.number lower).HasMoment present)
    (upperMoment : (Value.number upper).HasMoment present)
    (above : lower.AtMost number) (below : number.AtMost upper) :
    (Value.number number).HasMoment present := by
  obtain ⟨earlier, lowerRead⟩ := Value.hasMoment_number_iff.mp lowerMoment
  obtain ⟨later, upperRead⟩ := Value.hasMoment_number_iff.mp upperMoment
  exact Value.hasMoment_number_iff.mpr
    (Instant.ofEpochMilliseconds?_between above below lowerRead upperRead)

theorem atMost_integer_iff {left right : Int} :
    AtMost (.integer left) (.integer right) ↔ left ≤ right := by
  simp [AtMost, exactValue?, WithBot.coe_le_coe, WithTop.coe_le_coe]

/-- From the end of the year 9999 on no number is a moment. -/
theorem not_hasMoment_of_late {number : Number}
    (late : AtMost (.integer 253402300800000) number) :
    ¬(Value.number number).HasMoment present := by
  intro moment
  have epochFirst : AtMost (.integer 0) (.integer 253402300800000) :=
    atMost_integer_iff.mpr (by decide)
  have lateMoment := hasMoment_between Value.hasMoment_epoch moment epochFirst late
  exact absurd (Value.hasMoment_integer_iff.mp lateMoment).2 (by decide)

/-- A millisecond before the year 1 no number is a moment any more. -/
theorem not_hasMoment_of_early {number : Number}
    (early : AtMost number (.integer (-62135596800001))) :
    ¬(Value.number number).HasMoment present := by
  intro moment
  have epochLast : AtMost (.integer (-62135596800001)) (.integer 0) :=
    atMost_integer_iff.mpr (by decide)
  have earlyMoment := hasMoment_between moment Value.hasMoment_epoch early epochLast
  exact absurd (Value.hasMoment_integer_iff.mp earlyMoment).1 (by decide)

end Number

namespace Condition

variable {names : CharacterNames} {present : Instant} {engine : Engine}

theorem exists_relation (serving : engine.Serves (.known names present)) {operator : Operator}
    (date : operator ∈ [Operator.dateBefore, .dateAfter]) :
    ∃ relation, ∀ value operand : Value,
      applied engine operator value operand =
        value.compareMoments relation present operand := by
  simp only [List.mem_cons, List.not_mem_nil, or_false] at date
  rcases date with rfl | rfl
  · exact ⟨fun left right => decide (left < right),
      applied_plain serving (by decide) (by decide)⟩
  · exact ⟨fun left right => decide (right < left),
      applied_plain serving (by decide) (by decide)⟩

/-- Dates of numbers follow the numbers.  A number is no earlier moment than a number
that is at most as great, so it is not before it; integers are before and after each
other as they are less and greater.  The numbers that are moments form an interval.  The
others, among them whatever is not finite and whatever is not in the years 1 to 9999,
are neither before nor after anything, and no comparison of numbers breaks down. -/
theorem applied_epoch_order (serving : engine.Serves (.known names present)) :
    (∀ (left right : Number) (earlier later : Instant),
      (Value.number left).moment present = .ok (some earlier) →
      (Value.number right).moment present = .ok (some later) →
      left.AtMost right →
        earlier.microseconds ≤ later.microseconds ∧
          applied engine .dateAfter (.number left) (.number right) = .ok false) ∧
    (∀ left right : Int,
      (Value.integer left).HasMoment present → (Value.integer right).HasMoment present →
        applied engine .dateBefore (.integer left) (.integer right) =
          .ok (decide (left < right)) ∧
        applied engine .dateAfter (.integer left) (.integer right) =
          .ok (decide (right < left))) ∧
    (∀ lower number upper : Number,
      (Value.number lower).HasMoment present → (Value.number upper).HasMoment present →
      lower.AtMost number → number.AtMost upper →
        (Value.number number).HasMoment present) ∧
    (∀ number : Number,
      number ∈ [.binary .nan, .binary (.infinite true), .binary (.infinite false)] ∨
        number.AtMost (.integer (-62135596800001)) ∨
        Number.AtMost (.integer 253402300800000) number →
        ¬(Value.number number).HasMoment present) ∧
    ∀ operator ∈ [Operator.dateBefore, .dateAfter], ∀ number : Number,
      (∀ right : Number, ∃ answer,
        applied engine operator (.number number) (.number right) = .ok answer) ∧
      (¬(Value.number number).HasMoment present → ∀ other : Value,
        applied engine operator (.number number) other =
          (other.moment present).map (fun _ => false) ∧
        applied engine operator other (.number number) =
          (other.moment present).map (fun _ => false)) := by
  refine ⟨?_, ?_, ?_, ?_, ?_⟩
  · intro left right earlier later leftMoment rightMoment ordered
    have notLater : earlier.microseconds ≤ later.microseconds :=
      Instant.ofEpochMilliseconds?_mono ordered
        (Value.ofEpochMilliseconds?_of_moment leftMoment)
        (Value.ofEpochMilliseconds?_of_moment rightMoment)
    have compared := applied_of_moments serving (Value.momentMicroseconds_number leftMoment)
      (Value.momentMicroseconds_number rightMoment)
    refine ⟨notLater, ?_⟩
    rw [compared.2, decide_eq_false (not_lt_of_ge notLater)]
  · intro left right leftMoment rightMoment
    have compared := applied_of_moments serving (Value.momentMicroseconds_integer leftMoment)
      (Value.momentMicroseconds_integer rightMoment)
    rw [compared.1, compared.2]
    have leftInside := Value.hasMoment_integer_iff.mp leftMoment
    have rightInside := Value.hasMoment_integer_iff.mp rightMoment
    rw [decide_eq_decide.mpr (Instant.epochMicroseconds_lt_iff leftInside rightInside),
      decide_eq_decide.mpr (Instant.epochMicroseconds_lt_iff rightInside leftInside)]
    exact ⟨rfl, rfl⟩
  · intro lower number upper lowerMoment upperMoment above below
    exact Number.hasMoment_between lowerMoment upperMoment above below
  · intro number outside
    rcases outside with notFinite | early | late
    · rw [Value.hasMoment_number_iff]
      rintro ⟨instant, read⟩
      simp only [List.mem_cons, List.not_mem_nil, or_false] at notFinite
      rcases notFinite with rfl | rfl | rfl
      all_goals cases read
    · exact Number.not_hasMoment_of_early early
    · exact Number.not_hasMoment_of_late late
  · intro operator date number
    obtain ⟨relation, applied_eq⟩ := exists_relation serving date
    constructor
    · intro right
      rw [applied_eq]
      exact Value.compareMoments_numbers relation number right
    · intro notMoment other
      rw [applied_eq, applied_eq]
      exact Value.compareMoments_of_no_moment
        (Value.moment_of_not_hasMoment notMoment) relation

/-- Half a millisecond in binary lies between two integers of milliseconds. -/
theorem applied_epoch_order_of_half_millisecond :
    let engine := (Setting.known .standard default).engine
    let first := Number.integer 1704067200000
    let half := Number.binary (.finite false (3408134400001 * 2 ^ 1073))
    let next := Number.integer 1704067200001
    engine.Serves (.known .standard default) ∧
      (Value.number first).moment default = .ok (some ⟨1704067200000000, 0⟩) ∧
      (Value.number half).moment default = .ok (some ⟨1704067200000500, 0⟩) ∧
      (Value.number next).HasMoment default ∧
      first.AtMost half ∧ half.AtMost next ∧ (Value.number half).HasMoment default ∧
      applied engine .dateAfter (.number first) (.number half) = .ok false ∧
      applied engine .dateBefore (.number first) (.number next) = .ok true ∧
      applied engine .dateAfter (.number first) (.number (.binary .nan)) = .ok false := by
  intro engine first half next
  have serving : engine.Serves (.known .standard default) := Engine.serves_engine _
  obtain ⟨ordered, integers, interval, outside, others⟩ := applied_epoch_order serving
  have firstMoment : (Value.number first).moment default =
      .ok (some ⟨1704067200000000, 0⟩) := congrArg Except.ok (by decide +kernel)
  have halfMoment : (Value.number half).moment default =
      .ok (some ⟨1704067200000500, 0⟩) := congrArg Except.ok (by decide +kernel)
  have nextMoment : (Value.number next).HasMoment default :=
    Value.hasMoment_integer_iff.mpr ⟨by decide, by decide⟩
  have below : (1704067200000 : ℚ) ≤
      (3408134400001 * 2 ^ 1073 : Nat) / Binary64.stepsPerUnit := by decide +kernel
  have above : ((3408134400001 * 2 ^ 1073 : Nat) / Binary64.stepsPerUnit : ℚ) ≤
      1704067200001 := by decide +kernel
  have firstHalf : first.AtMost half := ⟨_, _, rfl, rfl,
    WithBot.coe_le_coe.mpr (WithTop.coe_le_coe.mpr below)⟩
  have halfNext : half.AtMost next := ⟨_, _, rfl, rfl,
    WithBot.coe_le_coe.mpr (WithTop.coe_le_coe.mpr above)⟩
  have nanMoment : ¬(Value.number (.binary .nan)).HasMoment default :=
    outside _ (.inl List.mem_cons_self)
  have nan := (others .dateAfter (by decide) (.binary .nan)).2 nanMoment (.number first)
  rw [firstMoment] at nan
  exact ⟨serving, firstMoment, halfMoment, nextMoment, firstHalf, halfNext,
    interval first half next ⟨_, firstMoment⟩ nextMoment firstHalf halfNext,
    (ordered first half _ _ firstMoment halfMoment firstHalf).2,
    (integers 1704067200000 1704067200001 ⟨_, firstMoment⟩ nextMoment).1, nan.2⟩

end Condition

end Criteria
