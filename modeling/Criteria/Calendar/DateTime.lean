import Criteria.Calendar.Date

/-!
# Times of day and instants

Local date-times with or without an offset from universal time, the instants
that they denote, and their ISO 8601 notation.
-/

namespace Criteria

/-- A time of day, exact to the microsecond. -/
structure TimeOfDay where
  hour : Fin 24
  minute : Fin 60
  second : Fin 60
  microsecond : Fin 1000000
  deriving DecidableEq

namespace TimeOfDay

def midnight : TimeOfDay := ⟨0, 0, 0, 0⟩

def ofParts? (hour minute second microsecond : Nat) : Option TimeOfDay :=
  if hourValid : hour < 24 then
    if minuteValid : minute < 60 then
      if secondValid : second < 60 then
        if microsecondValid : microsecond < 1000000 then
          some ⟨⟨hour, hourValid⟩, ⟨minute, minuteValid⟩, ⟨second, secondValid⟩,
            ⟨microsecond, microsecondValid⟩⟩
        else none
      else none
    else none
  else none

/-- The microseconds since midnight. -/
def microseconds (time : TimeOfDay) : Nat :=
  ((time.hour.val * 60 + time.minute.val) * 60 + time.second.val) * 1000000
    + time.microsecond.val

end TimeOfDay

/-- The distance of local time from universal time, less than a day. -/
structure UtcOffset where
  seconds : Int
  lessThanDay : -86400 < seconds ∧ seconds < 86400
  deriving DecidableEq

namespace UtcOffset

def ofSeconds? (seconds : Int) : Option UtcOffset :=
  if lessThanDay : -86400 < seconds ∧ seconds < 86400 then some ⟨seconds, lessThanDay⟩ else none

end UtcOffset

/-- A local date-time; without an offset it is called naive. -/
structure DateTime where
  date : Date
  time : TimeOfDay
  offset : Option UtcOffset
  deriving DecidableEq

/-- A point in time, in microseconds since the start of 1970 in universal time,
with the offset under which it was written. -/
structure Instant where
  microseconds : Int
  offsetSeconds : Int
  deriving DecidableEq, Inhabited

/-- The microseconds of local time since the start of 1970. -/
def localMicroseconds (dayNumber : Int) (time : TimeOfDay) : Int :=
  (dayNumber - Date.epochDay) * 86400000000 + time.microseconds

namespace Instant

/-- The instant at which clocks with an offset show a day and a time. -/
def ofLocal (dayNumber : Int) (time : TimeOfDay) (offsetSeconds : Int) : Instant :=
  { microseconds := localMicroseconds dayNumber time - offsetSeconds * 1000000
    offsetSeconds := offsetSeconds }

def ofDate (date : Date) : Instant :=
  ofLocal date.dayNumber .midnight 0

/-- The instant falls into the years 1 to 9999. -/
def inCalendar (microseconds : Int) : Bool :=
  localMicroseconds 0 .midnight ≤ microseconds &&
    microseconds < localMicroseconds Date.dayLimit .midnight

end Instant

namespace DateTime

/-- The instant of a date-time; a naive one is read as universal time. -/
def instant (dateTime : DateTime) : Instant :=
  .ofLocal dateTime.date.dayNumber dateTime.time
    ((dateTime.offset.map UtcOffset.seconds).getD 0)

/-- Equality of date-times: naive ones by what they show, others by their
instants, and never across. -/
def same (left right : DateTime) : Bool :=
  decide (left.offset.isSome = right.offset.isSome ∧
    left.instant.microseconds = right.instant.microseconds)

end DateTime

/-- A number in decimal, padded with zeros to a width. -/
def paddedDecimal (width number : Nat) : String :=
  let digits := toString number
  String.ofList (List.replicate (width - digits.length) '0') ++ digits

namespace Date

/-- The notation `YYYY-MM-DD`. -/
def isoText (date : Date) : String :=
  paddedDecimal 4 date.year ++ "-" ++ paddedDecimal 2 date.month ++ "-"
    ++ paddedDecimal 2 date.day

end Date

namespace TimeOfDay

/-- The notation `HH:MM:SS`, with six digits of a fraction that is not zero. -/
def isoText (time : TimeOfDay) : String :=
  paddedDecimal 2 time.hour.val ++ ":" ++ paddedDecimal 2 time.minute.val ++ ":"
    ++ paddedDecimal 2 time.second.val
    ++ if time.microsecond.val = 0 then "" else "." ++ paddedDecimal 6 time.microsecond.val

end TimeOfDay

namespace UtcOffset

/-- The notation `+HH:MM`, with seconds if they are not zero. -/
def isoText (offset : UtcOffset) : String :=
  let total := offset.seconds.natAbs
  let seconds := total % 60
  (if offset.seconds < 0 then "-" else "+")
    ++ paddedDecimal 2 (total / 3600) ++ ":" ++ paddedDecimal 2 (total / 60 % 60)
    ++ if seconds = 0 then "" else ":" ++ paddedDecimal 2 seconds

end UtcOffset

namespace DateTime

/-- The ISO 8601 notation with a chosen separator of date and time. -/
def isoText (dateTime : DateTime) (separator : Char) : String :=
  dateTime.date.isoText ++ String.singleton separator ++ dateTime.time.isoText
    ++ ((dateTime.offset.map UtcOffset.isoText).getD "")

end DateTime

end Criteria
