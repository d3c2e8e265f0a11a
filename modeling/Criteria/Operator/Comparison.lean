import Criteria.Condition.Fault
import Criteria.Value.Equality

/-!
# Comparison

Order of numbers by their exact value and of texts by code point.  Values of
other kinds, or of two kinds, have no order.
-/

namespace Criteria

namespace Value

/-- Both are numbers, or both are texts. -/
def orderable : Value → Value → Bool
  | .number _, .number _ => true
  | .text _, .text _ => true
  | _, _ => false

def less : Value → Value → Bool
  | .number left, .number right => left.less right
  | .text left, .text right => decide (left < right)
  | _, _ => false

def lessOrEqual : Value → Value → Bool
  | .number left, .number right => left.lessOrEqual right
  | .text left, .text right => !decide (right < left)
  | _, _ => false

/-- A comparison that is only made between values with an order. -/
def compareBy (operator : Operator) (relation : Value → Value → Bool) (value operand : Value) :
    Except Fault Bool :=
  if value.orderable operand then .ok (relation value operand)
  else .error (.incomparable operator value.kind operand.kind)

/-- The value lies between two bounds, which belong to the range; anything else
than two bounds in order with the value does not match. -/
def isBetween (value operand : Value) : Bool :=
  match operand.items? with
  | some [low, high] =>
      value.orderable low && value.orderable high
        && low.lessOrEqual value && value.lessOrEqual high
  | _ => false

end Value

end Criteria
