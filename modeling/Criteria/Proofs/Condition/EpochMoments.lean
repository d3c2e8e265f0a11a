import Criteria.Proofs.Calendar.Epoch
import Criteria.Proofs.Condition.Application
import Criteria.Proofs.Operator.Congruence

/-!
# Moments of epoch milliseconds

Whether a number of milliseconds is the same moment as a date, a date-time or a text
that denotes it depends on the binary number of seconds through which it is read.
-/

namespace Criteria

namespace Value

variable {names : CharacterNames} {present : Instant} {value operand : Value}

/-- A date, a date-time or an ISO 8601 text at some microsecond since the start of 1970. -/
inductive Denotes : Value → Int → Prop where
  | date (day : Date) : Denotes (.date day) (Instant.ofDate day).microseconds
  | dateTime (clock : DateTime) : Denotes (.dateTime clock) clock.instant.microseconds
  | text {written : String} {instant : Instant}
      (read : IsoText.read (stripBlanks written.toList) = .instant instant) :
      Denotes (.text written) instant.microseconds

theorem Denotes.momentMicroseconds {microseconds : Int}
    (denotes : value.Denotes microseconds) :
    value.momentMicroseconds present = .ok (some microseconds) := by
  cases denotes with
  | date => rfl
  | dateTime => rfl
  | @text written instant read =>
      have notPresent : ¬isPresentWord (stripBlanks written.toList) = true := by
        intro word
        rw [read_of_isPresentWord word] at read
        cases read
      rw [Value.momentMicroseconds, moment, textMoment, if_neg notPresent, read]
      rfl

theorem compareMoments_of_moments {left right : Int}
    (valueMoment : value.momentMicroseconds present = .ok (some left))
    (operandMoment : operand.momentMicroseconds present = .ok (some right))
    (relation : Int → Int → Bool) :
    compareMoments relation value present operand = .ok (relation left right) := by
  rw [compareMoments_eq, valueMoment, operandMoment]
  rfl

end Value

namespace Condition

variable {names : CharacterNames} {present : Instant} {engine : Engine}

section Moments

variable {value operand : Value} {left right : Int}

theorem applied_of_moments (serving : engine.Serves (.known names present))
    (valueMoment : value.momentMicroseconds present = .ok (some left))
    (operandMoment : operand.momentMicroseconds present = .ok (some right)) :
    applied engine .dateBefore value operand = .ok (decide (left < right)) ∧
      applied engine .dateAfter value operand = .ok (decide (right < left)) := by
  have compared := Value.compareMoments_of_moments valueMoment operandMoment
  constructor
  · exact (applied_plain serving (by decide) (by decide) value operand).trans
      (compared fun left right => decide (left < right))
  · exact (applied_plain serving (by decide) (by decide) value operand).trans
      (compared fun left right => decide (right < left))

/-- Neither of two values is before or after the other. -/
def Simultaneous (engine : Engine) (value operand : Value) : Prop :=
  ∀ operator ∈ [Operator.dateBefore, .dateAfter],
    applied engine operator value operand = .ok false ∧
      applied engine operator operand value = .ok false

theorem simultaneous_iff (serving : engine.Serves (.known names present))
    (valueMoment : value.momentMicroseconds present = .ok (some left))
    (operandMoment : operand.momentMicroseconds present = .ok (some right)) :
    Simultaneous engine value operand ↔ left = right := by
  obtain ⟨before, after⟩ := applied_of_moments serving valueMoment operandMoment
  obtain ⟨beforeBack, afterBack⟩ := applied_of_moments serving operandMoment valueMoment
  simp only [Simultaneous, List.forall_mem_cons, List.not_mem_nil, false_imp_iff,
    implies_true, and_true, before, beforeBack, after, afterBack, Except.ok.injEq,
    decide_eq_false_iff_not]
  omega

end Moments

/-- An integer of milliseconds is a moment if and only if it falls into the years 1 to
9999.  It is that many milliseconds exactly, and is neither before nor after a date, a
date-time or a text of the same moment, if and only if the nearest binary number of
seconds is at most half a microsecond off.  It is so until the year 2242 and at every
eighth of a second; elsewhere the moment is off by 15 microseconds at most. -/
theorem applied_epoch_milliseconds (serving : engine.Serves (.known names present))
    (milliseconds : Int) :
    ((∃ instant, (Value.integer milliseconds).moment present = .ok (some instant)) ↔
      -62135596800000 ≤ milliseconds ∧ milliseconds < 253402300800000) ∧
    ∀ instant, (Value.integer milliseconds).moment present = .ok (some instant) →
      (instant.microseconds = 1000 * milliseconds ↔ Instant.SecondsNear milliseconds) ∧
      (∀ other : Value, other.Denotes (1000 * milliseconds) →
        (Simultaneous engine (.integer milliseconds) other ↔
          Instant.SecondsNear milliseconds)) ∧
      (|milliseconds| < 8589934592000 ∨ 125 ∣ milliseconds →
        Instant.SecondsNear milliseconds) ∧
      |instant.microseconds - 1000 * milliseconds| ≤ 15 := by
  have moment_iff (instant : Instant) :
      (Value.integer milliseconds).moment present = .ok (some instant) ↔
        Instant.CalendarMilliseconds milliseconds ∧
          instant = ⟨Instant.epochMicroseconds milliseconds, 0⟩ := by
    have read : (Value.integer milliseconds).moment present =
        .ok (Instant.ofEpochMilliseconds? (.integer milliseconds)) := rfl
    rw [read, Except.ok.injEq]
    exact Instant.ofEpochMilliseconds?_integer
  refine ⟨?_, ?_⟩
  · simp only [moment_iff, exists_and_left, exists_eq, and_true]
    exact Iff.rfl
  · intro instant accepted
    obtain ⟨inside, rfl⟩ := (moment_iff instant).mp accepted
    have exact_iff : Instant.epochMicroseconds milliseconds = 1000 * milliseconds ↔
        Instant.SecondsNear milliseconds :=
      Instant.epochMicroseconds_eq_iff.trans (Instant.secondsNear_iff inside.bounded).symm
    refine ⟨exact_iff, fun other denotes => ?_, ?_,
      Instant.epochMicroseconds_within inside.bounded⟩
    · have numberMoment : (Value.integer milliseconds).momentMicroseconds present =
          .ok (some (Instant.epochMicroseconds milliseconds)) := by
        rw [Value.momentMicroseconds, accepted]
        rfl
      exact (simultaneous_iff serving numberMoment denotes.momentMicroseconds).trans exact_iff
    · rw [Instant.secondsNear_iff inside.bounded]
      rintro (early | eighths)
      · apply Binary64.secondsClose_of_early
        have := abs_lt.mp early
        omega
      · exact Binary64.secondsClose_of_eighths inside.bounded (Int.natCast_dvd.mp eighths)

theorem applied_epoch_milliseconds_of_last_second :
    let engine := (Setting.known .standard default).engine
    let text := Value.text "2242-03-16T12:56:31.999Z"
    engine.Serves (.known .standard default) ∧
      text.Denotes (1000 * 8589934591999) ∧
      (∃ instant, (Value.integer 8589934591999).moment default = .ok (some instant) ∧
        instant.microseconds = 1000 * 8589934591999) ∧
      Simultaneous engine (.integer 8589934591999) text := by
  intro engine text
  have serving : engine.Serves (.known .standard default) := Engine.serves_engine _
  have read : IsoText.read (stripBlanks "2242-03-16T12:56:31.999Z".toList) =
      .instant ⟨1000 * 8589934591999, 0⟩ := by decide +kernel
  have denotes : text.Denotes (1000 * 8589934591999) := .text read
  obtain ⟨accepted, exact⟩ := applied_epoch_milliseconds serving 8589934591999
  obtain ⟨instant, moment⟩ := accepted.mpr (by decide)
  obtain ⟨exact_iff, simultaneous_iff, near, -⟩ := exact instant moment
  have secondsNear := near (.inl (by decide))
  exact ⟨serving, denotes, ⟨instant, moment, exact_iff.mpr secondsNear⟩,
    (simultaneous_iff text denotes).mpr secondsNear⟩

/-- Two milliseconds later the number is read as a moment before its own. -/
theorem applied_before_same_epoch_milliseconds :
    let engine := (Setting.known .standard default).engine
    let text := Value.text "2242-03-16T12:56:32.001Z"
    text.Denotes (1000 * 8589934592001) ∧
      (Value.integer 8589934592001).moment default = .ok (some ⟨8589934592000999, 0⟩) ∧
      applied engine .dateBefore (.integer 8589934592001) text = .ok true ∧
      applied engine .dateAfter text (.integer 8589934592001) = .ok true := by
  intro engine text
  have serving : engine.Serves (.known .standard default) := Engine.serves_engine _
  have read : IsoText.read (stripBlanks "2242-03-16T12:56:32.001Z".toList) =
      .instant ⟨1000 * 8589934592001, 0⟩ := by decide +kernel
  have denotes : text.Denotes (1000 * 8589934592001) := .text read
  have moment : (Value.integer 8589934592001).moment default =
      .ok (some ⟨8589934592000999, 0⟩) :=
    congrArg Except.ok (by decide +kernel)
  have numberMoment : (Value.integer 8589934592001).momentMicroseconds default =
      .ok (some 8589934592000999) := by
    rw [Value.momentMicroseconds, moment]
    rfl
  exact ⟨denotes, moment,
    (applied_of_moments serving numberMoment denotes.momentMicroseconds).1,
    (applied_of_moments serving denotes.momentMicroseconds numberMoment).2⟩

end Condition

end Criteria
