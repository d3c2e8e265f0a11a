import Criteria.Proofs.Condition.Refusals

/-!
# Applications of operators

In the full table an operator is applied by its own rule, whatever the engine has been
used for before.
-/

namespace Criteria

namespace Condition

/-- What an engine makes of a known operator, a value and an operand. -/
def applied (engine : Engine) (operator : Operator) (value operand : Value) :
    Except Fault Bool :=
  ((apply operator.name value operand).run.run engine).1

section Rules

variable {names : CharacterNames} {present : Instant} {engine : Engine}

theorem applied_eq (serving : engine.Serves (.known names present)) (operator : Operator)
    (value operand : Value) :
    applied engine operator value operand =
      (applyHandler value operand (.known operator)).outcome (.known names present) :=
  ((steady_apply _ value operand).result serving).trans
    (outcome_apply (Setting.handler?_known_name names present operator) value operand)

/-- Outside the structural and logical families the rule sees values only. -/
theorem applied_plain (serving : engine.Serves (.known names present)) {operator : Operator}
    (notStructural : operator.family ≠ .structural) (notLogical : operator.family ≠ .logical)
    (value operand : Value) :
    applied engine operator value operand =
      (applyPlain operator value operand).outcome (.known names present) :=
  (applied_eq serving operator value operand).trans
    (outcome_plain value operand notStructural notLogical)

end Rules

end Condition

end Criteria
