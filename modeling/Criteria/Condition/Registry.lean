import Criteria.Condition.Fault

/-!
# Registry of operators

A table of operators by name.  It is open to new ones until a name is looked up
for the first time, and stays as it is from then on.
-/

namespace Criteria

/-- How an operator decides: by the rules of a known operator, or by a function
whose result counts as true or not. -/
inductive Handler where
  | known (operator : Operator)
  | custom (run : Value → Value → Except Fault Value)

structure Definition where
  name : String
  family : Family
  handler : Handler

structure Registry where
  definitions : List Definition
  frozen : Bool

inductive RegistrationError where
  | nameWithoutDollar (name : String)
  | notCallable (name : String)
  | registryFrozen (name : String)
  | alreadyRegistered (name : String)
  deriving DecidableEq

namespace RegistrationError

def message : RegistrationError → String
  | .nameWithoutDollar name =>
      "Operator names must start with '$': " ++ Literal.ofText name
  | .notCallable name => "Handler for " ++ Literal.ofText name ++ " is not callable"
  | .registryFrozen name => "Cannot register " ++ Literal.ofText name ++ ": registry is frozen"
  | .alreadyRegistered name => "Operator already registered: " ++ Literal.ofText name

end RegistrationError

namespace Registry

def empty : Registry := ⟨[], false⟩

/-- The table of all known operators. -/
def withKnownOperators : Registry :=
  ⟨Operator.all.map fun operator => ⟨operator.name, operator.family, .known operator⟩, false⟩

instance : Inhabited Registry := ⟨empty⟩

def names (registry : Registry) : List String :=
  registry.definitions.map Definition.name

def contains (registry : Registry) (name : String) : Bool :=
  registry.names.contains name

def definition? (registry : Registry) (name : String) : Option Definition :=
  registry.definitions.find? fun definition => definition.name = name

/-- The definitions with one added at the end, or put in place of its namesake. -/
def define (definition : Definition) : List Definition → List Definition
  | [] => [definition]
  | other :: rest =>
      if other.name = definition.name then definition :: rest
      else other :: define definition rest

/-- Adds an operator; a handler that cannot be called is absent. -/
def register (registry : Registry) (name : String) (handler : Option Handler) (replace : Bool) :
    Except RegistrationError Registry :=
  if name.toList.head? ≠ some '$' then .error (.nameWithoutDollar name)
  else
    match handler with
    | none => .error (.notCallable name)
    | some handler =>
        if registry.frozen then .error (.registryFrozen name)
        else if registry.contains name && !replace then .error (.alreadyRegistered name)
        else
          .ok { registry with
            definitions := define ⟨name, .custom, handler⟩ registry.definitions }

def freeze (registry : Registry) : Registry :=
  { registry with frozen := true }

/-- The handler of a name; asking closes the table. -/
def lookup (registry : Registry) (name : String) : Option Handler × Registry :=
  ((registry.definition? name).map Definition.handler, registry.freeze)

end Registry

end Criteria
