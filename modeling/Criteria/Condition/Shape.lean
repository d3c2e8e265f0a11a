import Criteria.Condition.Fault

/-!
# Shapes of conditions

A mapping whose keys all begin with a dollar sign applies operators; one without
such keys is plain data; one with both kinds of keys is neither.
-/

namespace Criteria

namespace Condition

inductive Shape where
  | plain
  | operators
  | mixed
  deriving DecidableEq

def isOperatorName (name : String) : Bool :=
  name.toList.head? = some '$'

def isOperatorKey : Key → Bool
  | .text name => isOperatorName name
  | _ => false

def shapeOfEntries (entries : List (Key × Value)) : Shape :=
  if !entries.any fun entry => isOperatorKey entry.1 then .plain
  else if entries.all fun entry => isOperatorKey entry.1 then .operators
  else .mixed

def shape : Value → Shape
  | .mapping entries => shapeOfEntries entries
  | _ => .plain

def checkShape (condition : Value) : Except Fault Unit :=
  match condition with
  | .mapping entries =>
      match shapeOfEntries entries with
      | .mixed => .error (.mixedCondition (entries.map Prod.fst))
      | _ => .ok ()
  | _ => .ok ()

/-- The operand of a condition that only asks whether its field is there. -/
def presence? : Value → Option Value
  | .mapping [(.text name, operand)] => if name = Operator.present.name then some operand else none
  | _ => none

/-- The operand of such a question, which has to be a truth value. -/
def flag : Value → Except Fault Bool
  | .boolean value => .ok value
  | operand => .error (.flagExpected operand.kind)

end Condition

end Criteria
