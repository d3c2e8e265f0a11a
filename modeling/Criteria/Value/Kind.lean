import Criteria.Value.Basic

/-!
# Kinds of values

The vocabulary in which conditions and messages speak of the type of a value.
-/

namespace Criteria

inductive Kind where
  | null
  | boolean
  | number
  | string
  | array
  | object
  | date
  | dateTime
  deriving DecidableEq

namespace Kind

def name : Kind → String
  | .null => "null"
  | .boolean => "boolean"
  | .number => "number"
  | .string => "string"
  | .array => "array"
  | .object => "object"
  | .date => "date"
  | .dateTime => "datetime"

/-- The kinds that a condition can ask for, sorted by name. -/
def askable : List Kind :=
  [.array, .boolean, .null, .number, .object, .string]

end Kind

namespace Value

def kind : Value → Kind
  | .null => .null
  | .boolean _ => .boolean
  | .number _ => .number
  | .text _ => .string
  | .date _ => .date
  | .dateTime _ => .dateTime
  | .list _ => .array
  | .tuple _ => .array
  | .mapping _ => .object

end Value

end Criteria
