import Criteria.Calendar.DateTime

/-!
# ISO 8601 texts

Reads calendar dates, ordinal dates and week dates, in the extended notation
with separators or the basic one without, optionally followed by a time of day
and an offset.  A text is read in full or not at all; only ASCII digits count.
-/

namespace Criteria

namespace IsoText

/-- The value of an ASCII digit. -/
def digitValue? (char : Char) : Option Nat :=
  if '0' ≤ char ∧ char ≤ '9' then some (char.toNat - '0'.toNat) else none

/-- Reads exactly so many digits, continuing a number. -/
def digitsFrom : Nat → Nat → List Char → Option (Nat × List Char)
  | 0, value, chars => some (value, chars)
  | _ + 1, _, [] => none
  | count + 1, value, char :: chars =>
      match digitValue? char with
      | some digit => digitsFrom count (value * 10 + digit) chars
      | none => none

def digits (count : Nat) (chars : List Char) : Option (Nat × List Char) :=
  digitsFrom count 0 chars

/-- Reads exactly so many digits that end the text. -/
def lastDigits (count : Nat) (chars : List Char) : Option Nat :=
  match digits count chars with
  | some (value, []) => some value
  | _ => none

inductive Style where
  | extended
  | basic
  deriving DecidableEq

/-- The day of a month of a year. -/
def calendarDay? (year month day : Nat) : Option Int :=
  (Date.ofParts? year month day).map fun date => date.dayNumber

/-- The day with a position in its year, the first day having position one. -/
def ordinalDay? (year position : Nat) : Option Int :=
  if 1 ≤ year ∧ 1 ≤ position ∧ position ≤ daysInYear year then
    some (Date.daysBeforeYear year + position - 1)
  else none

/-- The day of a week of a year, Monday being one; the week zero and the day
zero precede the first ones. -/
def weekDay? (year week day : Nat) : Option Int :=
  let dayNumber := Date.firstMonday year + ((week : Int) - 1) * 7 + ((day : Int) - 1)
  if 1 ≤ year ∧ week ≤ Date.weeksInYear year ∧ day ≤ 7
      ∧ 0 ≤ dayNumber ∧ dayNumber < Date.dayLimit then
    some dayNumber
  else none

/-- What follows the year of a date in the extended notation. -/
def extendedDay? (year : Nat) (chars : List Char) : Option Int :=
  match chars with
  | 'W' :: chars => do
      let (week, chars) ← digits 2 chars
      match chars with
      | [] => weekDay? year week 1
      | '-' :: chars => weekDay? year week (← lastDigits 1 chars)
      | _ => none
  | chars =>
      match lastDigits 3 chars with
      | some position => ordinalDay? year position
      | none => do
          let (month, chars) ← digits 2 chars
          match chars with
          | [] => calendarDay? year month 1
          | '-' :: chars => calendarDay? year month (← lastDigits 2 chars)
          | _ => none

/-- What follows the year of a date in the basic notation. -/
def basicDay? (year : Nat) (chars : List Char) : Option Int :=
  match chars with
  | 'W' :: chars => do
      let (week, chars) ← digits 2 chars
      match chars with
      | [] => weekDay? year week 1
      | chars => weekDay? year week (← lastDigits 1 chars)
  | chars =>
      match lastDigits 3 chars with
      | some position => ordinalDay? year position
      | none => do
          let (month, chars) ← digits 2 chars
          calendarDay? year month (← lastDigits 2 chars)

/-- The number of the day that a date text denotes, and the style of the text. -/
def day? (chars : List Char) : Option (Style × Int) := do
  let (year, chars) ← digits 4 chars
  match chars with
  | '-' :: chars => (extendedDay? year chars).map fun day => (.extended, day)
  | chars => (basicDay? year chars).map fun day => (.basic, day)

/-- The microseconds of a fraction of a second; digits after the sixth are
dropped. -/
def microsecondsOf (fraction : List Char) : Nat :=
  (((fraction ++ List.replicate 6 '0').take 6).filterMap digitValue?).foldl
    (fun value digit => value * 10 + digit) 0

/-- A fraction of a second, if a mark and at least one digit follow. -/
def fraction (chars : List Char) : Nat × List Char :=
  match chars with
  | mark :: rest =>
      let fractionDigits := rest.takeWhile Char.isDigit
      if (mark = '.' ∨ mark = ',') ∧ fractionDigits ≠ [] then
        (microsecondsOf fractionDigits, rest.dropWhile Char.isDigit)
      else (0, chars)
  | [] => (0, [])

/-- The minutes and what belongs to them; a time may stop after any part. -/
def minutes? (style : Style) (hour : Nat) (chars : List Char) :
    Option (Option TimeOfDay × List Char) :=
  match chars with
  | ':' :: chars => do
      let (minute, chars) ← digits 2 chars
      match style, chars with
      | .extended, ':' :: chars =>
          let (second, chars) ← digits 2 chars
          let (microsecond, chars) := fraction chars
          some (TimeOfDay.ofParts? hour minute second microsecond, chars)
      | _, chars => some (TimeOfDay.ofParts? hour minute 0 0, chars)
  | chars =>
      match style, digits 2 chars with
      | .basic, some (minute, chars) =>
          match digits 2 chars with
          | some (second, chars) =>
              let (microsecond, chars) := fraction chars
              some (TimeOfDay.ofParts? hour minute second microsecond, chars)
          | none => some (TimeOfDay.ofParts? hour minute 0 0, chars)
      | _, _ => some (TimeOfDay.ofParts? hour 0 0 0, chars)

/-- The minutes of an offset, which may be left out, also after a colon. -/
def offsetMinutes? (chars : List Char) : Option Nat :=
  match chars with
  | [] => some 0
  | chars => lastDigits 2 chars

/-- The seconds of the offset that ends a text. -/
def offset? (chars : List Char) : Option Int :=
  match chars with
  | [] => some 0
  | ['Z'] => some 0
  | sign :: chars => do
      guard (sign = '+' ∨ sign = '-')
      let (hours, chars) ← digits 2 chars
      let minutes ← match chars with
        | ':' :: chars => offsetMinutes? chars
        | chars => offsetMinutes? chars
      let seconds : Int := hours * 3600 + minutes * 60
      some (if sign = '-' then -seconds else seconds)

def clock? (style : Style) (chars : List Char) : Option (TimeOfDay × Int) := do
  let (hour, chars) ← digits 2 chars
  let (time?, chars) ← minutes? style hour chars
  let time ← time?
  some (time, ← offset? chars)

end IsoText

/-- What a text says about a point in time. -/
inductive InstantReading where
  | unreadable
  | instant (instant : Instant)
  | offsetTooLarge
  deriving DecidableEq

namespace IsoText

def isSeparator (char : Char) : Bool :=
  char = 'T' || char = ' '

/-- Offsets beyond a day to the east make a text unreadable; those of a full
day, or of a day and more to the west, are read but denote nothing. -/
def ofLocal (day : Int) (time : TimeOfDay) (offsetSeconds : Int) : InstantReading :=
  if 86400 < offsetSeconds then .unreadable
  else
    match UtcOffset.ofSeconds? offsetSeconds with
    | some offset => .instant (.ofLocal day time offset.seconds)
    | none => .offsetTooLarge

/-- Reads a date with an optional time of day and offset. -/
def read (chars : List Char) : InstantReading :=
  let dateChars := chars.takeWhile fun char => !isSeparator char
  match day? dateChars, chars.dropWhile fun char => !isSeparator char with
  | none, _ => .unreadable
  | some (_, day), [] => .instant (.ofLocal day .midnight 0)
  | some (style, day), _ :: clockChars =>
      match clock? style clockChars with
      | some (time, offsetSeconds) => ofLocal day time offsetSeconds
      | none => .unreadable

end IsoText

namespace Date

/-- Reads the notation `YYYY-MM-DD`. -/
def ofIsoText? (text : String) : Option Date := do
  let (year, chars) ← IsoText.digits 4 text.toList
  let '-' :: chars := chars | none
  let (month, chars) ← IsoText.digits 2 chars
  let '-' :: chars := chars | none
  ofParts? year month (← IsoText.lastDigits 2 chars)

end Date

namespace DateTime

/-- Reads the notation `YYYY-MM-DDTHH:MM:SS`, with an optional fraction and an
optional offset. -/
def ofIsoText? (text : String) : Option DateTime := do
  let date ← Date.ofIsoText? (String.ofList (text.toList.take 10))
  let 'T' :: chars := text.toList.drop 10 | none
  let (hour, chars) ← IsoText.digits 2 chars
  let (time?, chars) ← IsoText.minutes? .extended hour chars
  let time ← time?
  match chars with
  | [] => some ⟨date, time, none⟩
  | chars => some ⟨date, time, some (← UtcOffset.ofSeconds? (← IsoText.offset? chars))⟩

end DateTime

end Criteria
