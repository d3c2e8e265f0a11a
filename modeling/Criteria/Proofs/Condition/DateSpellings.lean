import Criteria.Proofs.Calendar.DayNumber
import Criteria.Proofs.Calendar.IsoNotation
import Criteria.Proofs.Condition.EpochMoments

/-!
# Spellings of dates

A date and a date-time can be written as a value of its own or as a text, with blanks
around it.  All spellings denote one moment, the local time less its offset from
universal time, and are before and after each other as these moments are.
-/

namespace Criteria

namespace DateTime

/-- The seconds of local time since the start of 1970. -/
def localSeconds (clock : DateTime) : Int :=
  (clock.date.dayNumber - Date.epochDay) * 86400 + clock.time.hour.val * 3600 +
    clock.time.minute.val * 60 + clock.time.second.val

/-- The seconds by which local time is ahead of universal time; a naive date-time shows
universal time. -/
def offsetSeconds (clock : DateTime) : Int :=
  (clock.offset.map UtcOffset.seconds).getD 0

/-- The microseconds since the start of 1970 in universal time. -/
def exactMicroseconds (clock : DateTime) : Int :=
  (clock.localSeconds - clock.offsetSeconds) * 1000000 + clock.time.microsecond.val

theorem instant_eq (clock : DateTime) :
    clock.instant = ⟨clock.exactMicroseconds, clock.offsetSeconds⟩ := by
  rw [instant, Instant.ofLocal, localMicroseconds, TimeOfDay.microseconds, Instant.mk.injEq]
  refine ⟨?_, rfl⟩
  rw [exactMicroseconds, localSeconds, offsetSeconds]
  push_cast
  ring

/-- The same time of day on the next day is a day later. -/
theorem exactMicroseconds_of_follows {earlier later : Date} (follows : earlier.Follows later)
    (time : TimeOfDay) (offset : Option UtcOffset) :
    exactMicroseconds ⟨later, time, offset⟩ =
      exactMicroseconds ⟨earlier, time, offset⟩ + 86400000000 := by
  simp only [exactMicroseconds, localSeconds, offsetSeconds, follows.dayNumber_eq]
  push_cast
  ring

end DateTime

namespace Value

variable {names : CharacterNames} {present : Instant} {value : Value} {clock : DateTime}

/-- The ways to spell a date-time; a date stands for its midnight in universal time. -/
inductive Spells : Value → DateTime → Prop where
  | date (day : Date) : Spells (.date day) ⟨day, .midnight, none⟩
  | dateTime (clock : DateTime) : Spells (.dateTime clock) clock
  | dateText (day : Date) {written : String} (surrounded : Surrounded day.isoText written) :
      Spells (.text written) ⟨day, .midnight, none⟩
  | clockText {clock : DateTime} (whole : clock.WholeMinutes) {separator : Char}
      (separates : separator ∈ ['T', ' ']) {written : String}
      (surrounded : Surrounded (clock.isoText separator) written) :
      Spells (.text written) clock
  | markedText {clock : DateTime} (naive : clock.offset = none) {separator : Char}
      (separates : separator ∈ ['T', ' ']) {written : String}
      (surrounded : Surrounded (clock.isoText separator ++ "Z") written) :
      Spells (.text written) clock

theorem isSeparator_of_mem {separator : Char} (separates : separator ∈ ['T', ' ']) :
    IsoText.isSeparator separator = true := by
  simpa [IsoText.isSeparator] using separates

theorem moment_of_surrounded {inner written : String} {instant : Instant}
    (surrounded : Surrounded inner written) (solid : Solid inner.toList)
    (read : IsoText.read inner.toList = .instant instant) :
    (Value.text written).moment present = .ok (some instant) := by
  have stripped : stripBlanks written.toList = inner.toList :=
    surrounded.stripBlanks_eq.trans solid.stripBlanks_eq
  have notPresent : ¬isPresentWord inner.toList = true := by
    intro word
    rw [read_of_isPresentWord word] at read
    cases read
  rw [moment, textMoment, stripped, if_neg notPresent, read]

theorem Spells.moment_eq_instant (spells : value.Spells clock) :
    value.moment present = .ok (some clock.instant) := by
  cases spells with
  | date day => rfl
  | dateTime => rfl
  | dateText day surrounded =>
      exact moment_of_surrounded surrounded (solid_date day) (IsoText.read_date day)
  | clockText whole separates surrounded =>
      exact moment_of_surrounded surrounded (DateTime.solid_isoText whole _)
        (DateTime.read_isoText whole (isSeparator_of_mem separates))
  | markedText naive separates surrounded =>
      exact moment_of_surrounded surrounded (DateTime.solid_isoText_marked naive _)
        (DateTime.read_isoText_marked naive (isSeparator_of_mem separates))

theorem Spells.moment_eq (spells : value.Spells clock) :
    value.moment present = .ok (some ⟨clock.exactMicroseconds, clock.offsetSeconds⟩) := by
  rw [spells.moment_eq_instant, clock.instant_eq]

theorem Spells.momentMicroseconds_eq (spells : value.Spells clock) :
    value.momentMicroseconds present = .ok (some clock.exactMicroseconds) := by
  rw [momentMicroseconds, spells.moment_eq]
  rfl

/-- The four ways to write a day. -/
def daySpellings (day : Date) : List Value :=
  [.date day, .text day.isoText, .dateTime ⟨day, .midnight, none⟩,
    .text (day.isoText ++ "T00:00:00Z")]

theorem spells_of_mem_daySpellings {day : Date} (member : value ∈ daySpellings day) :
    value.Spells ⟨day, .midnight, none⟩ := by
  have marked : day.isoText ++ "T00:00:00Z" =
      DateTime.isoText ⟨day, .midnight, none⟩ 'T' ++ "Z" := by
    have midnight : "T00:00:00Z" = String.singleton 'T' ++ TimeOfDay.midnight.isoText ++ "Z" := by
      decide
    rw [midnight]
    simp [DateTime.isoText, String.append_assoc]
  simp only [daySpellings, List.mem_cons, List.not_mem_nil, or_false] at member
  rcases member with rfl | rfl | rfl | rfl
  · exact .date day
  · exact .dateText day (surrounded_self _)
  · exact .dateTime _
  · rw [marked]
    exact .markedText rfl List.mem_cons_self (surrounded_self _)

end Value

namespace Condition

variable {names : CharacterNames} {present : Instant} {engine : Engine}

/-- A day written as a date, as a text, as its midnight or as the text of its midnight
is one moment.  A date-time and its notation, with blanks around it or not, are the
moment of its local time less its offset, a naive one showing universal time, and
whatever is spelled so is before and after each other as these moments are.  Every day
begins a day after the one before it, at the ends of months, of years and of leap years
as well. -/
theorem applied_date_spellings (serving : engine.Serves (.known names present)) :
    (∀ (day : Date), ∀ value ∈ Value.daySpellings day,
      value.moment present =
        .ok (some ⟨(day.dayNumber - Date.epochDay) * 86400000000, 0⟩)) ∧
    (∀ (value : Value) (clock : DateTime), value.Spells clock →
      value.moment present =
        .ok (some ⟨clock.exactMicroseconds, clock.offsetSeconds⟩)) ∧
    (∀ (value operand : Value) (clock other : DateTime),
      value.Spells clock → operand.Spells other →
        applied engine .dateBefore value operand =
          .ok (decide (clock.exactMicroseconds < other.exactMicroseconds)) ∧
        applied engine .dateAfter value operand =
          .ok (decide (other.exactMicroseconds < clock.exactMicroseconds))) ∧
    ∀ (earlier later : Date) (time : TimeOfDay) (offset : Option UtcOffset),
      earlier.Follows later →
        DateTime.exactMicroseconds ⟨later, time, offset⟩ =
          DateTime.exactMicroseconds ⟨earlier, time, offset⟩ + 86400000000 := by
  refine ⟨?_, ?_, ?_, ?_⟩
  · intro day value member
    have midnight : DateTime.exactMicroseconds ⟨day, .midnight, none⟩ =
        (day.dayNumber - Date.epochDay) * 86400000000 := by
      simp [DateTime.exactMicroseconds, DateTime.localSeconds, DateTime.offsetSeconds,
        TimeOfDay.midnight]
      ring
    rw [(Value.spells_of_mem_daySpellings member).moment_eq, midnight]
    rfl
  · intro value clock spells
    exact spells.moment_eq
  · intro value operand clock other spells otherSpells
    exact applied_of_moments serving spells.momentMicroseconds_eq
      otherSpells.momentMicroseconds_eq
  · intro earlier later time offset follows
    exact DateTime.exactMicroseconds_of_follows follows time offset

/-- Half an hour to the west, a moment of the leap day belongs to the first of March. -/
theorem applied_date_spellings_of_leap_day :
    let engine := (Setting.known .standard default).engine
    let leapDay : Date := ⟨2024, 2, 29, by decide, by decide, by decide⟩
    let march : Date := ⟨2024, 3, 1, by decide, by decide, by decide⟩
    let clock : DateTime := ⟨leapDay, ⟨23, 30, 0, 250⟩, some ⟨-1800, by decide⟩⟩
    let text := Value.text "\t2024-02-29T23:30:00.000250-00:30 "
    engine.Serves (.known .standard default) ∧ text.Spells clock ∧
      text.moment default = .ok (some ⟨1709251200000250, -1800⟩) ∧
      .text "2024-03-01" ∈ Value.daySpellings march ∧
      (Value.text "2024-03-01").moment default = .ok (some ⟨1709251200000000, 0⟩) ∧
      applied engine .dateAfter text (.text "2024-03-01") = .ok true ∧
      leapDay.Follows march := by
  intro engine leapDay march clock text
  have serving : engine.Serves (.known .standard default) := Engine.serves_engine _
  obtain ⟨days, clocks, order, following⟩ := applied_date_spellings serving
  have whole : clock.WholeMinutes := by
    rintro offset ⟨⟩
    exact ⟨-30, rfl⟩
  have surrounded : Surrounded (clock.isoText 'T') "\t2024-02-29T23:30:00.000250-00:30 " :=
    ⟨['\t'], [' '], List.forall_mem_singleton.mpr (by decide),
      List.forall_mem_singleton.mpr (by decide), by decide +kernel⟩
  have spells : text.Spells clock := .clockText whole List.mem_cons_self surrounded
  have member : .text "2024-03-01" ∈ Value.daySpellings march := by
    have written : march.isoText = "2024-03-01" := by decide +kernel
    simp [Value.daySpellings, written]
  have compared := order text (.text "2024-03-01") clock ⟨march, .midnight, none⟩ spells
    (Value.spells_of_mem_daySpellings member)
  have clockExact : clock.exactMicroseconds = 1709251200000250 := by decide +kernel
  have marchExact : DateTime.exactMicroseconds ⟨march, .midnight, none⟩ = 1709251200000000 := by
    decide +kernel
  have marchNumber : ((march.dayNumber : Int) - Date.epochDay) * 86400000000 =
      1709251200000000 := by decide +kernel
  have clockMoment := clocks text clock spells
  have marchMoment := days march _ member
  rw [clockExact] at clockMoment compared
  rw [marchExact] at compared
  rw [marchNumber] at marchMoment
  exact ⟨serving, spells, clockMoment, member, marchMoment, compared.2,
    .month rfl rfl (by decide) rfl⟩

end Condition

end Criteria
