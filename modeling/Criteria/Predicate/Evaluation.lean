import Criteria.Condition.Matching
import Criteria.Predicate.Basic
import Criteria.Predicate.Result
import Criteria.Specification.Event

/-!
# Evaluation of predicates

A predicate is matched if all of its conditions are.  If data that they need are
missing, nothing else is decided; otherwise every condition is, and the first
fault leaves the predicate undetermined.
-/

namespace Criteria

/-- What an evaluation yields, or nothing if it broke down, and what it
reported. -/
structure Verdict where
  result : Option PredicateResult
  events : List Event

/-- A way to evaluate predicates. -/
abbrev Evaluator := Value → Predicate → StateM Engine Verdict

namespace Query

/-- The paths that lead nowhere although their conditions need a value. -/
def missingPaths (document : Value) (fields : List (String × Value)) : List String :=
  fields.filterMap fun (path, condition) =>
    match resolve document path, Condition.presence? condition with
    | .missing path, none => some path
    | _, _ => none

/-- Decides the condition of a field. -/
def matchField (document : Value) (path : String) (condition : Value) : Evaluation Bool :=
  match resolve document path with
  | .found value => Condition.matchValue value condition
  | .missing _ =>
      match Condition.presence? condition with
      | some operand => Condition.matchAbsent operand
      | none => pure false

/-- Decides all conditions before combining them. -/
def matchFields (document : Value) : List (String × Value) → Evaluation Bool
  | [] => pure true
  | (path, condition) :: rest => do
      let outcome ← matchField document path condition
      let others ← matchFields document rest
      pure (outcome && others)

end Query

namespace Predicate

/-- The event that reports a fault. -/
def faultEvent (predicateId : String) (fault : Fault) : Event :=
  match fault with
  | .unknownOperator name => .unknownOperator predicateId name
  | .crash cause => .internalError predicateId (some cause.name)
  | fault => .undetermined predicateId fault.reason

def verdictOf (predicateId : String) : Except Fault Bool → Verdict
  | .ok matched => ⟨some (.determined predicateId matched), []⟩
  | .error fault =>
      ⟨some (.failed predicateId fault.reason), [faultEvent predicateId fault]⟩

/-- Evaluates a predicate on a document. -/
def evaluate : Evaluator := fun document predicate => do
  let id := predicate.id
  let fields := predicate.query.fields
  if fields.isEmpty then return ⟨some (.notFound id), [.notFound id]⟩
  let missing := Query.missingPaths document fields
  if !missing.isEmpty then return ⟨some (.missing id missing), [.missingData id missing]⟩
  return verdictOf id (← (Query.matchFields document fields).run)

end Predicate

namespace Evaluator

/-- The evaluator that breaks down on predicates with certain names. -/
def breakingOn (ids : List String) (evaluator : Evaluator) : Evaluator :=
  fun document predicate =>
    if ids.contains predicate.id then return ⟨none, []⟩ else evaluator document predicate

end Evaluator

end Criteria
