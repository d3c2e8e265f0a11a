import Criteria.Condition.Fault
import Criteria.Value.Equality

/-!
# Collections

Membership of values in lists and tuples, and the size of these.
-/

namespace Criteria

namespace Value

/-- The items of an operand that has to be a collection. -/
def requireItems (operator : Operator) (operand : Value) : Except Fault (List Value) :=
  match operand.items? with
  | some items => .ok items
  | none => .error (.listExpected operator operand.kind)

def isIn (value operand : Value) : Except Fault Bool := do
  let options ← requireItems .isIn operand
  return value.memberOf options

def isNotIn (value operand : Value) : Except Fault Bool := do
  let options ← requireItems .isNotIn operand
  return !value.memberOf options

/-- Every required item is a member of the value; repetition does not count. -/
def containsAll (value operand : Value) : Except Fault Bool := do
  let required ← requireItems .containsAll operand
  match value.items? with
  | some items => return required.all fun item => item.memberOf items
  | none => return false

def hasSize (value operand : Value) : Except Fault Bool :=
  match operand with
  | .number (.integer count) =>
      match value.items? with
      | some items => .ok (decide ((items.length : Int) = count))
      | none => .ok false
  | operand => .error (.integerExpected operand.kind)

end Value

end Criteria
