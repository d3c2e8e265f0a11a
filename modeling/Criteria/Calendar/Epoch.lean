import Criteria.Calendar.DateTime
import Criteria.Number.Rounding

/-!
# Epoch milliseconds

Numbers as points in time: the milliseconds since the start of 1970.  The
number is first divided by a thousand as a binary number; its whole seconds and
its fraction are then taken apart, and the fraction is rounded to microseconds.
-/

namespace Criteria

namespace Binary64

/-- The microseconds nearest to a finite number of seconds. -/
def secondsToMicroseconds (steps : Nat) : Nat :=
  let wholeSeconds := steps / stepsPerUnit
  let fraction := steps % stepsPerUnit
  wholeSeconds * 1000000 + roundedQuotient (nearestCount (fraction * 1000000) 1) stepsPerUnit

end Binary64

namespace Instant

/-- The point in time of a number of milliseconds, if it falls into the years
1 to 9999. -/
def ofEpochMilliseconds? (milliseconds : Number) : Option Instant :=
  match milliseconds.dividedBy 1000 with
  | .finite negative steps =>
      let microseconds := Binary64.signed negative (Binary64.secondsToMicroseconds steps)
      if inCalendar microseconds then some ⟨microseconds, 0⟩ else none
  | _ => none

end Instant

end Criteria
