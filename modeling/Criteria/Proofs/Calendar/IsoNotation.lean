import Mathlib.Data.List.TakeWhile
import Mathlib.Data.Nat.Digits.Defs
import Criteria.Calendar.IsoText
import Criteria.Proofs.Unicode.Blank

/-!
# Written dates and times

Reading undoes writing.  A number padded to a width is read back as its digits, with
whatever follows left over; from it the notations of a date, a time of day and an
offset of whole minutes are read back part by part, and so is a date-time, as its
instant.
-/

namespace Criteria

/-- The digits of a number, filled up with zeros to a width. -/
def paddedDigits (width number : Nat) : List Char :=
  List.replicate (width - (Nat.toDigits 10 number).length) '0' ++ Nat.toDigits 10 number

theorem toList_paddedDecimal (width number : Nat) :
    (paddedDecimal width number).toList = paddedDigits width number := by
  have digits : (toString number).toList = Nat.toDigits 10 number := Nat.toList_repr
  rw [paddedDecimal, String.toList_append, String.toList_ofList, ← String.length_toList, digits,
    paddedDigits]

theorem paddedDigits_one {number : Nat} (single : number < 10) :
    paddedDigits 1 number = [Nat.digitChar number] := by
  rw [paddedDigits, Nat.toDigits_of_lt_base single]
  rfl

theorem paddedDigits_succ {width : Nat} (positive : 0 < width) (number : Nat) :
    paddedDigits (width + 1) number =
      paddedDigits width (number / 10) ++ [Nat.digitChar (number % 10)] := by
  obtain ⟨rest, rfl⟩ := Nat.exists_eq_add_of_le' positive
  unfold paddedDigits
  by_cases single : number < 10
  · have none : Nat.toDigits 10 0 = ['0'] := rfl
    rw [Nat.toDigits_of_lt_base single, Nat.div_eq_of_lt single, Nat.mod_eq_of_lt single, none,
      List.length_singleton, List.length_singleton, Nat.add_sub_cancel, Nat.add_sub_cancel,
      List.replicate_succ']
  · have several : 10 ≤ number := Nat.le_of_not_lt single
    rw [Nat.toDigits_of_base_le (by decide) several, List.length_append, List.length_singleton,
      Nat.add_sub_add_right, List.append_assoc]

theorem paddedDigits_ne_nil (width number : Nat) : paddedDigits width number ≠ [] :=
  List.append_ne_nil_of_right_ne_nil _ (List.ne_nil_of_length_pos Nat.length_toDigits_pos)

theorem isDigit_of_mem_paddedDigits {width number : Nat} {char : Char}
    (member : char ∈ paddedDigits width number) : char.isDigit = true := by
  rcases List.mem_append.mp member with zero | digit
  · rw [List.eq_of_mem_replicate zero]
    rfl
  · exact Nat.isDigit_of_mem_toDigits (by decide) (by decide) digit

namespace IsoText

section Digits

variable {width number count value read : Nat} {chars rest : List Char}

theorem digitValue?_digitChar {digit : Nat} (single : digit < 10) :
    digitValue? (Nat.digitChar digit) = some digit := by
  have letters : ∀ digit < 10, digitValue? (Nat.digitChar digit) = some digit := by decide
  exact letters digit single

theorem digitsFrom_cons {char : Char} {digit : Nat} (read : digitValue? char = some digit) :
    digitsFrom (count + 1) value (char :: chars) =
      digitsFrom count (value * 10 + digit) chars := by
  simp only [digitsFrom, read]

theorem exists_digit_of_digitsFrom {char : Char} {read : Nat × List Char}
    (whole : digitsFrom (count + 1) value (char :: chars) = some read) :
    ∃ digit, digitValue? char = some digit ∧
      digitsFrom count (value * 10 + digit) chars = some read := by
  unfold digitsFrom at whole
  cases digit : digitValue? char with
  | none => simp [digit] at whole
  | some value =>
      simp only [digit] at whole
      exact ⟨value, rfl, whole⟩

theorem digitsFrom_add (first : digitsFrom width value chars = some (read, rest)) (count : Nat) :
    digitsFrom (width + count) value chars = digitsFrom count read rest := by
  induction width generalizing value chars with
  | zero =>
      cases first
      rw [Nat.zero_add]
  | succ width induction =>
      rw [Nat.add_right_comm]
      cases chars with
      | nil => cases first
      | cons char chars =>
          obtain ⟨digit, charRead, restRead⟩ := exists_digit_of_digitsFrom first
          rw [digitsFrom_cons charRead]
          exact induction restRead

/-- A padded number is read back; what follows it is left over. -/
theorem digits_paddedDigits (positive : 0 < width) (fits : number < 10 ^ width)
    (rest : List Char) :
    digits width (paddedDigits width number ++ rest) = some (number, rest) := by
  induction width, positive using Nat.le_induction generalizing number rest with
  | base =>
      rw [Nat.pow_one] at fits
      rw [paddedDigits_one fits]
      simp [digits, digitsFrom, digitValue?_digitChar fits]
  | succ width positive induction =>
      have tenth : number / 10 < 10 ^ width := by
        rw [Nat.div_lt_iff_lt_mul (by decide), ← Nat.pow_succ]
        exact fits
      have first := induction tenth (Nat.digitChar (number % 10) :: rest)
      have last := digitValue?_digitChar (Nat.mod_lt number (by decide : 10 > 0))
      rw [paddedDigits_succ positive, List.append_assoc]
      unfold digits at first ⊢
      rw [List.singleton_append, digitsFrom_add first 1, digitsFrom_cons last, digitsFrom,
        Nat.div_add_mod']

theorem lastDigits_paddedDigits (positive : 0 < width) (fits : number < 10 ^ width) :
    lastDigits width (paddedDigits width number) = some number := by
  have whole := digits_paddedDigits positive fits []
  rw [List.append_nil] at whole
  rw [lastDigits, whole]

/-- The digits of a list, read as a number, are those that are read one by one. -/
theorem foldl_of_digitsFrom (whole : digitsFrom count value chars = some (read, rest)) :
    ((chars.take count).filterMap digitValue?).foldl
      (fun value digit => value * 10 + digit) value = read := by
  induction count generalizing value chars with
  | zero =>
      cases whole
      rfl
  | succ count induction =>
      cases chars with
      | nil => cases whole
      | cons char chars =>
          obtain ⟨digit, charRead, restRead⟩ := exists_digit_of_digitsFrom whole
          rw [List.take_succ_cons, List.filterMap_cons_some charRead, List.foldl_cons]
          exact induction restRead

end Digits

section Dates

variable {year month day : Nat}

/-- Two digits and a mark are no position of a day in its year. -/
theorem lastDigits_of_mark {number : Nat} (fits : number < 100) (rest : List Char) :
    lastDigits 3 (paddedDigits 2 number ++ '-' :: rest) = none := by
  have first := digits_paddedDigits (by decide : 0 < 2) fits ('-' :: rest)
  have noDigit : digitValue? '-' = none := by decide
  unfold lastDigits digits at *
  rw [digitsFrom_add first 1]
  simp only [digitsFrom, noDigit]

theorem ofParts?_parts (date : Date) :
    Date.ofParts? date.year date.month date.day = some date := by
  rw [Date.ofParts?, dif_pos date.yearValid, dif_pos date.monthValid, dif_pos date.dayValid]

theorem day_lt (date : Date) : date.day < 100 := by
  have valid := date.dayValid.2
  have short : daysInMonth date.year date.month ≤ 31 := by
    unfold daysInMonth
    split
    · split <;> decide
    all_goals decide
  omega

theorem toList_dateIsoText (date : Date) :
    date.isoText.toList =
      paddedDigits 4 date.year ++
        '-' :: (paddedDigits 2 date.month ++ '-' :: paddedDigits 2 date.day) := by
  simp [Date.isoText, String.toList_append, toList_paddedDecimal]

/-- The notation of a date is read as its day. -/
theorem day?_isoText (date : Date) :
    day? date.isoText.toList = some (.extended, (date.dayNumber : Int)) := by
  have yearFits : date.year < 10 ^ 4 := Nat.lt_succ_of_le date.yearValid.2
  have monthFits : date.month < 10 ^ 2 := by
    have := date.monthValid.2
    omega
  have afterYear := digits_paddedDigits (by decide : 0 < 4) yearFits
    ('-' :: (paddedDigits 2 date.month ++ '-' :: paddedDigits 2 date.day))
  have afterMonth := digits_paddedDigits (by decide : 0 < 2) monthFits
    ('-' :: paddedDigits 2 date.day)
  have lastDay := lastDigits_paddedDigits (by decide : 0 < 2) (day_lt date)
  have read : extendedDay? date.year
      (paddedDigits 2 date.month ++ '-' :: paddedDigits 2 date.day) =
        some (date.dayNumber : Int) := by
    unfold extendedDay?
    split
    · next rest week =>
        rw [week] at afterMonth
        cases afterMonth
    · rw [lastDigits_of_mark monthFits]
      simp [afterMonth, lastDay, calendarDay?, ofParts?_parts]
  rw [toList_dateIsoText, day?]
  simp [afterYear, read]

end Dates

section Times

/-- What follows a number does not continue it. -/
def EndsNumber (chars : List Char) : Prop :=
  ∀ char ∈ chars.head?, char.isDigit = false ∧ char ≠ '.' ∧ char ≠ ','

theorem EndsNumber.takeWhile_eq {rest : List Char} (ended : EndsNumber rest) :
    rest.takeWhile Char.isDigit = [] := by
  cases rest with
  | nil => rfl
  | cons char rest => exact List.takeWhile_cons_of_neg (Bool.not_eq_true _ ▸ (ended char rfl).1)

theorem EndsNumber.dropWhile_eq {rest : List Char} (ended : EndsNumber rest) :
    rest.dropWhile Char.isDigit = rest := by
  cases rest with
  | nil => rfl
  | cons char rest => exact List.dropWhile_cons_of_neg (Bool.not_eq_true _ ▸ (ended char rfl).1)

/-- The notation of a fraction of a second, which is left out if it is zero. -/
def fractionChars (microsecond : Nat) : List Char :=
  if microsecond = 0 then [] else '.' :: paddedDigits 6 microsecond

theorem microsecondsOf_paddedDigits {microsecond : Nat} (fits : microsecond < 10 ^ 6) :
    microsecondsOf (paddedDigits 6 microsecond) = microsecond :=
  foldl_of_digitsFrom (digits_paddedDigits (by decide) fits (List.replicate 6 '0'))

theorem fraction_fractionChars {microsecond : Nat} (fits : microsecond < 10 ^ 6)
    {rest : List Char} (ended : EndsNumber rest) :
    fraction (fractionChars microsecond ++ rest) = (microsecond, rest) := by
  unfold fractionChars
  by_cases zero : microsecond = 0
  · rw [if_pos zero, zero, List.nil_append]
    cases rest with
    | nil => rfl
    | cons mark rest =>
        obtain ⟨-, noPoint, noComma⟩ := ended mark rfl
        simp [fraction, noPoint, noComma]
  · have digits : ∀ char ∈ paddedDigits 6 microsecond, char.isDigit = true :=
      fun char member => isDigit_of_mem_paddedDigits member
    have taken : (paddedDigits 6 microsecond ++ rest).takeWhile Char.isDigit =
        paddedDigits 6 microsecond := by
      rw [List.takeWhile_append_of_pos digits, ended.takeWhile_eq, List.append_nil]
    have dropped : (paddedDigits 6 microsecond ++ rest).dropWhile Char.isDigit = rest := by
      rw [List.dropWhile_append_of_pos digits, ended.dropWhile_eq]
    rw [if_neg zero, List.cons_append, fraction]
    simp [taken, dropped, paddedDigits_ne_nil, microsecondsOf_paddedDigits fits]

theorem toList_timeIsoText (time : TimeOfDay) :
    time.isoText.toList =
      paddedDigits 2 time.hour ++ ':' :: (paddedDigits 2 time.minute ++
        ':' :: (paddedDigits 2 time.second ++ fractionChars time.microsecond)) := by
  unfold TimeOfDay.isoText fractionChars
  split
  · simp [String.toList_append, toList_paddedDecimal]
  · simp [String.toList_append, toList_paddedDecimal]

theorem timeOfParts?_parts (time : TimeOfDay) :
    TimeOfDay.ofParts? time.hour time.minute time.second time.microsecond = some time := by
  rw [TimeOfDay.ofParts?, dif_pos time.hour.isLt, dif_pos time.minute.isLt,
    dif_pos time.second.isLt, dif_pos time.microsecond.isLt]

/-- The notation of a time of day is read as the time, and the offset after it. -/
theorem clock?_isoText (time : TimeOfDay) {rest : List Char} {seconds : Int}
    (ended : EndsNumber rest) (offsetRead : offset? rest = some seconds) :
    clock? .extended (time.isoText.toList ++ rest) = some (time, seconds) := by
  have hourRead := digits_paddedDigits (by decide : 0 < 2) (time.hour.isLt.trans (by decide))
    (':' :: (paddedDigits 2 time.minute ++
      ':' :: (paddedDigits 2 time.second ++ (fractionChars time.microsecond ++ rest))))
  have minuteRead := digits_paddedDigits (by decide : 0 < 2)
    (time.minute.isLt.trans (by decide))
    (':' :: (paddedDigits 2 time.second ++ (fractionChars time.microsecond ++ rest)))
  have secondRead := digits_paddedDigits (by decide : 0 < 2)
    (time.second.isLt.trans (by decide)) (fractionChars time.microsecond ++ rest)
  have fractionRead := fraction_fractionChars time.microsecond.isLt ended
  rw [toList_timeIsoText]
  simp [clock?, minutes?, hourRead, minuteRead, secondRead, fractionRead, timeOfParts?_parts,
    offsetRead]

end Times

section Offsets

theorem offset?_signed {sign : Char} (signs : sign = '+' ∨ sign = '-') {hours minutes : Nat}
    (hoursFit : hours < 100) (minutesFit : minutes < 100) :
    offset? (sign :: (paddedDigits 2 hours ++ ':' :: paddedDigits 2 minutes)) =
      some (if sign = '-' then -((hours * 3600 + minutes * 60 : Nat) : Int)
        else (hours * 3600 + minutes * 60 : Nat)) := by
  have hoursRead := digits_paddedDigits (by decide : 0 < 2) hoursFit
    (':' :: paddedDigits 2 minutes)
  have minutesRead : offsetMinutes? (paddedDigits 2 minutes) = some minutes := by
    unfold offsetMinutes?
    split
    · next empty => exact absurd empty (paddedDigits_ne_nil 2 minutes)
    · exact lastDigits_paddedDigits (by decide) minutesFit
  rcases signs with rfl | rfl
  · simp [offset?, hoursRead, minutesRead]
  · simp [offset?, hoursRead, minutesRead]

end Offsets

end IsoText

namespace UtcOffset

/-- The offset is made of whole minutes. -/
def WholeMinutes (offset : UtcOffset) : Prop :=
  (60 : Int) ∣ offset.seconds

theorem toList_isoText {offset : UtcOffset} (whole : offset.WholeMinutes) :
    offset.isoText.toList =
      (if offset.seconds < 0 then '-' else '+') ::
        (paddedDigits 2 (offset.seconds.natAbs / 3600) ++
          ':' :: paddedDigits 2 (offset.seconds.natAbs / 60 % 60)) := by
  have noSeconds : offset.seconds.natAbs % 60 = 0 := by
    unfold WholeMinutes at whole
    omega
  rw [isoText, if_pos noSeconds]
  split
  · simp [String.toList_append, toList_paddedDecimal]
  · simp [String.toList_append, toList_paddedDecimal]

/-- The notation of an offset is read as its seconds. -/
theorem offset?_isoText {offset : UtcOffset} (whole : offset.WholeMinutes) :
    IsoText.offset? offset.isoText.toList = some offset.seconds := by
  have lessThanDay := offset.lessThanDay
  unfold WholeMinutes at whole
  rw [toList_isoText whole]
  by_cases negative : offset.seconds < 0
  · rw [if_pos negative, IsoText.offset?_signed (.inr rfl) (by omega) (by omega), if_pos rfl,
      Option.some_inj]
    omega
  · rw [if_neg negative, IsoText.offset?_signed (.inl rfl) (by omega) (by omega),
      if_neg (by decide), Option.some_inj]
    omega

theorem endsNumber_isoText {offset : UtcOffset} (whole : offset.WholeMinutes) :
    IsoText.EndsNumber offset.isoText.toList := by
  rw [toList_isoText whole]
  rintro char ⟨⟩
  split
  · decide
  · decide

end UtcOffset

namespace IsoText

/-- A separator is no part of a date. -/
theorem not_isSeparator_of_mem_date {date : Date} {char : Char}
    (member : char ∈ date.isoText.toList) : (!isSeparator char) = true := by
  have digits (width number : Nat) (digit : char ∈ paddedDigits width number) :
      (!isSeparator char) = true := by
    have isDigit := isDigit_of_mem_paddedDigits digit
    have notLetter : char ≠ 'T' := by
      rintro rfl
      exact absurd isDigit (by decide)
    have notBlank : char ≠ ' ' := by
      rintro rfl
      exact absurd isDigit (by decide)
    simp [isSeparator, notLetter, notBlank]
  rw [toList_dateIsoText] at member
  simp only [List.mem_append, List.mem_cons] at member
  rcases member with year | rfl | month | rfl | day
  · exact digits 4 _ year
  · decide
  · exact digits 2 _ month
  · decide
  · exact digits 2 _ day

theorem read_date (date : Date) : read date.isoText.toList = .instant (.ofDate date) := by
  have noSeparator : ∀ char ∈ date.isoText.toList, (!isSeparator char) = true :=
    fun char member => not_isSeparator_of_mem_date member
  rw [read, List.takeWhile_eq_self_iff.mpr noSeparator,
    List.dropWhile_eq_nil_iff.mpr noSeparator, day?_isoText]
  rfl

theorem ofLocal_offset (day : Int) (time : TimeOfDay) (offset : UtcOffset) :
    ofLocal day time offset.seconds = .instant (.ofLocal day time offset.seconds) := by
  have lessThanDay := offset.lessThanDay
  rw [ofLocal, if_neg (by omega), UtcOffset.ofSeconds?, dif_pos lessThanDay]

/-- A date, a separator, a time of day and an offset are read as an instant. -/
theorem read_dateTime {separator : Char} (separates : isSeparator separator = true)
    (date : Date) (time : TimeOfDay) {rest : List Char} (offset : UtcOffset)
    (ended : EndsNumber rest) (offsetRead : offset? rest = some offset.seconds) :
    read (date.isoText.toList ++ separator :: (time.isoText.toList ++ rest)) =
      .instant (.ofLocal date.dayNumber time offset.seconds) := by
  have noSeparator : ∀ char ∈ date.isoText.toList, (!isSeparator char) = true :=
    fun char member => not_isSeparator_of_mem_date member
  rw [read, List.takeWhile_append_of_pos noSeparator, List.dropWhile_append_of_pos noSeparator]
  simp only [List.takeWhile_cons, List.dropWhile_cons, separates, Bool.not_true,
    Bool.false_eq_true, if_false, List.append_nil, day?_isoText,
    clock?_isoText time ended offsetRead]
  exact ofLocal_offset _ time offset

end IsoText

namespace DateTime

/-- The offset, if there is one, is made of whole minutes. -/
def WholeMinutes (clock : DateTime) : Prop :=
  ∀ offset ∈ clock.offset, offset.WholeMinutes

theorem toList_isoText (clock : DateTime) (separator : Char) :
    (clock.isoText separator).toList =
      clock.date.isoText.toList ++ separator :: (clock.time.isoText.toList ++
        ((clock.offset.map UtcOffset.isoText).getD "").toList) := by
  simp [isoText, String.toList_append]

theorem toList_isoText_marked {clock : DateTime} (naive : clock.offset = none)
    (separator : Char) :
    (clock.isoText separator ++ "Z").toList =
      clock.date.isoText.toList ++ separator :: (clock.time.isoText.toList ++ ['Z']) := by
  simp [isoText, naive, String.toList_append]

/-- The notation of a date-time is read as its instant. -/
theorem read_isoText {clock : DateTime} (whole : clock.WholeMinutes) {separator : Char}
    (separates : IsoText.isSeparator separator = true) :
    IsoText.read (clock.isoText separator).toList = .instant clock.instant := by
  obtain ⟨date, time, offset⟩ := clock
  rw [toList_isoText]
  cases offset with
  | none =>
      exact IsoText.read_dateTime separates date time ⟨0, by decide⟩ nofun rfl
  | some offset =>
      have wholeOffset := whole offset rfl
      exact IsoText.read_dateTime separates date time offset
        (UtcOffset.endsNumber_isoText wholeOffset) (UtcOffset.offset?_isoText wholeOffset)

/-- A naive date-time is read as before when its notation is marked as universal time. -/
theorem read_isoText_marked {clock : DateTime} (naive : clock.offset = none) {separator : Char}
    (separates : IsoText.isSeparator separator = true) :
    IsoText.read (clock.isoText separator ++ "Z").toList = .instant clock.instant := by
  have ended : IsoText.EndsNumber ['Z'] := by
    rintro char ⟨⟩
    decide
  have universal : clock.instant = .ofLocal clock.date.dayNumber clock.time 0 := by
    rw [instant, naive]
    rfl
  rw [toList_isoText_marked naive, universal]
  exact IsoText.read_dateTime separates clock.date clock.time ⟨0, by decide⟩ ended rfl

end DateTime

section Solidity

theorem isBlank_of_mem_paddedDigits {width number : Nat} {char : Char}
    (member : char ∈ paddedDigits width number) : isBlank char = false :=
  isBlank_of_isDigit (isDigit_of_mem_paddedDigits member)

theorem isBlank_of_mem_date {date : Date} {char : Char} (member : char ∈ date.isoText.toList) :
    isBlank char = false := by
  rw [IsoText.toList_dateIsoText] at member
  simp only [List.mem_append, List.mem_cons] at member
  rcases member with year | rfl | month | rfl | day
  · exact isBlank_of_mem_paddedDigits year
  · decide
  · exact isBlank_of_mem_paddedDigits month
  · decide
  · exact isBlank_of_mem_paddedDigits day

theorem isBlank_of_mem_time {time : TimeOfDay} {char : Char}
    (member : char ∈ time.isoText.toList) : isBlank char = false := by
  rw [IsoText.toList_timeIsoText] at member
  simp only [List.mem_append, List.mem_cons] at member
  rcases member with hour | rfl | minute | rfl | second | fraction
  · exact isBlank_of_mem_paddedDigits hour
  · decide
  · exact isBlank_of_mem_paddedDigits minute
  · decide
  · exact isBlank_of_mem_paddedDigits second
  · unfold IsoText.fractionChars at fraction
    split at fraction
    · cases fraction
    · rcases List.mem_cons.mp fraction with rfl | digit
      · decide
      · exact isBlank_of_mem_paddedDigits digit

theorem isBlank_of_mem_offset {offset : UtcOffset} (whole : offset.WholeMinutes) {char : Char}
    (member : char ∈ offset.isoText.toList) : isBlank char = false := by
  rw [UtcOffset.toList_isoText whole] at member
  simp only [List.mem_append, List.mem_cons] at member
  rcases member with rfl | hours | rfl | minutes
  · split
    · decide
    · decide
  · exact isBlank_of_mem_paddedDigits hours
  · decide
  · exact isBlank_of_mem_paddedDigits minutes

theorem solid_date (date : Date) : Solid date.isoText.toList :=
  .of_all fun _ member => isBlank_of_mem_date member

/-- The notation of a date, a separator, a time of day and more that is not blank. -/
theorem solid_dateTime (date : Date) (separator : Char) (time : TimeOfDay) {rest : List Char}
    (noBlank : ∀ char ∈ rest, isBlank char = false) :
    Solid (date.isoText.toList ++ separator :: (time.isoText.toList ++ rest)) := by
  have timeSolid : Solid (time.isoText.toList ++ rest) := by
    refine .of_all fun char member => ?_
    rcases List.mem_append.mp member with timeMember | restMember
    · exact isBlank_of_mem_time timeMember
    · exact noBlank char restMember
  apply (solid_date date).separated separator timeSolid
  · rw [IsoText.toList_dateIsoText]
    exact List.append_ne_nil_of_right_ne_nil _ (List.cons_ne_nil _ _)
  · rw [IsoText.toList_timeIsoText]
    exact List.append_ne_nil_of_left_ne_nil
      (List.append_ne_nil_of_right_ne_nil _ (List.cons_ne_nil _ _)) _

namespace DateTime

theorem solid_isoText {clock : DateTime} (whole : clock.WholeMinutes) (separator : Char) :
    Solid (clock.isoText separator).toList := by
  rw [toList_isoText]
  apply solid_dateTime
  intro char member
  cases written : clock.offset with
  | none =>
      rw [written] at member
      cases member
  | some offset =>
      rw [written] at member
      exact isBlank_of_mem_offset (whole offset written) member

theorem solid_isoText_marked {clock : DateTime} (naive : clock.offset = none)
    (separator : Char) : Solid (clock.isoText separator ++ "Z").toList := by
  rw [toList_isoText_marked naive]
  apply solid_dateTime
  simp only [List.mem_singleton, forall_eq]
  decide

end DateTime

end Solidity

end Criteria
