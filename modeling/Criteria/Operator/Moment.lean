import Criteria.Calendar.Epoch
import Criteria.Calendar.IsoText
import Criteria.Condition.Fault
import Criteria.Unicode.Blank
import Criteria.Value.Basic

/-!
# Moments

The points in time that values denote: dates, date-times, epoch milliseconds,
ISO 8601 texts, and the present, which is written as a word.
-/

namespace Criteria

namespace Value

/-- The word for the present, in any letter case. -/
def isPresentWord (chars : List Char) : Bool :=
  chars.map Char.toLower = ['n', 'o', 'w']

/-- The moment of a text, read without the blanks around it. -/
def textMoment (present : Instant) (text : String) : Except Fault (Option Instant) :=
  let chars := stripBlanks text.toList
  if isPresentWord chars then .ok (some present)
  else
    match IsoText.read chars with
    | .instant instant => .ok (some instant)
    | .unreadable => .ok none
    | .offsetTooLarge => .error (.crash .offsetTooLarge)

/-- The moment that a value denotes, if any. -/
def moment (present : Instant) : Value → Except Fault (Option Instant)
  | .date day => .ok (some (.ofDate day))
  | .dateTime clock => .ok (some clock.instant)
  | .number milliseconds => .ok (Instant.ofEpochMilliseconds? milliseconds)
  | .text written => textMoment present written
  | _ => .ok none

/-- Relates the moments of two values, which are both found first. -/
def compareMoments (relation : Int → Int → Bool) (value : Value) (present : Instant)
    (operand : Value) : Except Fault Bool := do
  let left ← value.moment present
  let right ← operand.moment present
  match left, right with
  | some left, some right => return relation left.microseconds right.microseconds
  | _, _ => return false

def isBefore (value : Value) (present : Instant) (operand : Value) : Except Fault Bool :=
  compareMoments (fun left right => decide (left < right)) value present operand

def isAfter (value : Value) (present : Instant) (operand : Value) : Except Fault Bool :=
  compareMoments (fun left right => decide (right < left)) value present operand

end Value

end Criteria
