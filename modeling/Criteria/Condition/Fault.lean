import Criteria.Operator.Basic
import Criteria.Pattern.Problem
import Criteria.Value.Kind
import Criteria.Value.Literal

/-!
# Faults

Why a clause of a condition cannot be decided.  Most faults lie in the condition
or in the types it is confronted with; a crash is a fault that no rule foresees.
The function of an added operator may crash with a fault of any kind.
-/

namespace Criteria

inductive Crash where
  | offsetTooLarge
  | repeatCountTooLarge
  | repeatCountTooLong
  | incompatibleModes
  | keyNotText
  | handlerFailed (kind : String)
  deriving DecidableEq

namespace Crash

/-- The name under which a crash is reported. -/
def name : Crash → String
  | .offsetTooLarge => "ValueError"
  | .repeatCountTooLarge => "OverflowError"
  | .repeatCountTooLong => "ValueError"
  | .incompatibleModes => "ValueError"
  | .keyNotText => "AttributeError"
  | .handlerFailed kind => kind

end Crash

inductive Fault where
  | unknownOperator (name : String)
  | incomparable (operator : Operator) (value operand : Kind)
  | mixedCondition (keys : List Key)
  | listExpected (operator : Operator) (operand : Kind)
  | integerExpected (operand : Kind)
  | flagExpected (operand : Kind)
  | kindExpected (operand : Value)
  | patternExpected (operand : Kind)
  | malformedPattern (pattern : String) (malformation : Pattern.Malformation)
  | queryExpected (operand : Kind)
  | mixedQuery
  | refused (reason : String)
  | crash (crash : Crash)

namespace Fault

/-- The fault of a pattern that cannot be used. -/
def ofRejection (pattern : String) : Pattern.Rejection → Fault
  | .malformed malformation => .malformedPattern pattern malformation
  | .repeatCountTooLarge => .crash .repeatCountTooLarge
  | .repeatCountTooLong => .crash .repeatCountTooLong
  | .incompatibleModes => .crash .incompatibleModes

/-- The labels of keys, sorted by code point. -/
def sortedLabels (keys : List Key) : List String :=
  (keys.map Key.label).mergeSort fun left right => !decide (right < left)

/-- The text that explains a fault. -/
def reason : Fault → String
  | .unknownOperator name => "Unknown operator: " ++ name
  | .incomparable operator value operand =>
      operator.name ++ " cannot compare " ++ value.name ++ " with " ++ operand.name
  | .mixedCondition keys =>
      "Condition mixes operators and fields: " ++ String.intercalate ", " (sortedLabels keys)
  | .listExpected operator operand =>
      operator.name ++ " expects a list operand, got " ++ operand.name
  | .integerExpected operand => "$size expects an integer operand, got " ++ operand.name
  | .flagExpected operand => "$exists expects a boolean operand, got " ++ operand.name
  | .kindExpected operand =>
      "$type expects one of " ++ String.intercalate ", " (Kind.askable.map Kind.name)
        ++ ", got " ++ Literal.ofValue operand
  | .patternExpected operand => "Invalid pattern: expected string, got " ++ operand.name
  | .malformedPattern pattern malformation =>
      "Invalid pattern " ++ Literal.ofText pattern ++ ": " ++ malformation.message pattern
  | .queryExpected operand => "$elemMatch expects a query object, got " ++ operand.name
  | .mixedQuery => "$elemMatch query mixes operators and fields"
  | .refused reason => reason
  | .crash cause => "Internal error during evaluation: " ++ cause.name

end Fault

end Criteria
