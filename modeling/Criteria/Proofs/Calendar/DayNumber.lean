import Mathlib.Tactic.Tauto
import Criteria.Calendar.DateTime

/-!
# Numbers of days

The number of a day counts the days before it: the first day of the year 1 has none
before it, and a day that follows another has one more, within a month, at the end of a
month, and at the end of a year, be it a leap year or not.
-/

namespace Criteria

namespace Date

/-- The next day of the calendar. -/
inductive Follows : Date → Date → Prop where
  | day {earlier later : Date} (sameYear : later.year = earlier.year)
      (sameMonth : later.month = earlier.month) (nextDay : later.day = earlier.day + 1) :
      Follows earlier later
  | month {earlier later : Date} (sameYear : later.year = earlier.year)
      (nextMonth : later.month = earlier.month + 1)
      (lastDay : earlier.day = daysInMonth earlier.year earlier.month)
      (firstDay : later.day = 1) : Follows earlier later
  | year {earlier later : Date} (nextYear : later.year = earlier.year + 1)
      (lastMonth : earlier.month = 12) (lastDay : earlier.day = 31)
      (firstMonth : later.month = 1) (firstDay : later.day = 1) : Follows earlier later

theorem isLeapYear_iff {year : Nat} :
    isLeapYear year = true ↔ 4 ∣ year ∧ (100 ∣ year → 400 ∣ year) := by
  simp only [isLeapYear, Bool.and_eq_true, Bool.or_eq_true, decide_eq_true_eq, ne_eq,
    decide_not, Bool.not_eq_true', decide_eq_false_iff_not, Nat.dvd_iff_mod_eq_zero]
  tauto

/-- A year is as long as the days between its first day and that of the next year. -/
theorem daysBeforeYear_succ {year : Nat} (started : 1 ≤ year) :
    daysBeforeYear (year + 1) = daysBeforeYear year + daysInYear year := by
  obtain ⟨past, rfl⟩ := Nat.exists_eq_add_of_le' started
  have hundreds : past / 100 ≤ past / 4 := Nat.div_le_div_left (by decide) (by decide)
  have fourOfHundred : 100 ∣ past + 1 → 4 ∣ past + 1 := (Nat.dvd_trans ⟨25, rfl⟩ ·)
  have hundredOfFourHundred : 400 ∣ past + 1 → 100 ∣ past + 1 := (Nat.dvd_trans ⟨4, rfl⟩ ·)
  unfold daysBeforeYear daysInYear
  simp only [Nat.add_sub_cancel, Nat.succ_div, isLeapYear_iff]
  generalize past / 4 = fours at *
  generalize past / 100 = centuries at *
  generalize past / 400 = cycles at *
  by_cases four : 4 ∣ past + 1
  · by_cases hundred : 100 ∣ past + 1
    · by_cases fourHundred : 400 ∣ past + 1
      · simp only [four, hundred, fourHundred, if_true, true_and, imp_self]
        omega
      · simp only [four, hundred, fourHundred, if_true, if_false, true_and, true_imp_iff]
        omega
    · have fourHundred := mt hundredOfFourHundred hundred
      simp only [four, hundred, fourHundred, if_true, if_false, true_and, imp_self]
      omega
  · have hundred := mt fourOfHundred four
    have fourHundred := mt hundredOfFourHundred hundred
    simp only [four, hundred, fourHundred, if_false, false_and]
    omega

theorem daysBeforeMonth_succ (year : Nat) {month : Nat} (started : 1 ≤ month) :
    daysBeforeMonth year (month + 1) = daysBeforeMonth year month + daysInMonth year month := by
  obtain ⟨earlier, rfl⟩ := Nat.exists_eq_add_of_le' started
  unfold daysBeforeMonth
  rw [Nat.add_sub_cancel, Nat.add_sub_cancel, List.range_succ, List.map_append,
    List.foldl_append]
  rfl

theorem daysBeforeMonth_december (year : Nat) :
    daysBeforeMonth year 12 + 31 = daysInYear year := by
  have months : daysBeforeMonth year 12 = 306 + daysInMonth year 2 := by
    simp [daysBeforeMonth, List.range_succ, daysInMonth]
    omega
  rw [months, daysInMonth, daysInYear]
  split
  · rfl
  · rfl

/-- The next day has the next number. -/
theorem Follows.dayNumber_eq {earlier later : Date} (follows : Follows earlier later) :
    later.dayNumber = earlier.dayNumber + 1 := by
  have earlierDay := earlier.dayValid.1
  have laterDay := later.dayValid.1
  cases follows with
  | day sameYear sameMonth nextDay =>
      rw [dayNumber, dayNumber, sameYear, sameMonth]
      omega
  | month sameYear nextMonth lastDay firstDay =>
      have months := daysBeforeMonth_succ earlier.year earlier.monthValid.1
      rw [dayNumber, dayNumber, sameYear, nextMonth, months]
      omega
  | year nextYear lastMonth lastDay firstMonth firstDay =>
      have years := daysBeforeYear_succ earlier.yearValid.1
      have months := daysBeforeMonth_december earlier.year
      have first : daysBeforeMonth (earlier.year + 1) 1 = 0 := rfl
      rw [dayNumber, dayNumber, nextYear, lastMonth, firstMonth, years, first]
      omega

end Date

end Criteria
