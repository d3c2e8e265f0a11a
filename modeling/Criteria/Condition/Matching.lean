import Criteria.Condition.Engine
import Criteria.Condition.Shape
import Criteria.Operator.Collection
import Criteria.Operator.Comparison
import Criteria.Operator.Moment
import Criteria.Operator.Text
import Criteria.Value.Path

/-!
# Matching

Decides whether a value satisfies a condition.  Every clause of a condition is
decided before the results are combined, from left to right, so that a fault is
never hidden by a result beside it; the first fault ends the evaluation.
-/

namespace Criteria

namespace Condition

/-- The text of the value contains the pattern.  The pattern is compiled whatever
the value is. -/
def matchesPattern (value operand : Value) : Evaluation Bool :=
  match operand with
  | .text pattern => do
      let compiled ← Evaluation.getPattern pattern
      match value with
      | .text text => return compiled.occursIn text
      | _ => return false
  | operand => throw (.patternExpected operand.kind)

def hasKind (value operand : Value) : Except Fault Bool :=
  match operand with
  | .text name =>
      if (Kind.askable.map Kind.name).contains name then .ok (value.kind.name = name)
      else .error (.kindExpected operand)
  | operand => .error (.kindExpected operand)

/-- The operators that look at the value and the operand alone. -/
def applyPlain (operator : Operator) (value operand : Value) : Evaluation Bool :=
  match operator with
  | .equal => return value.equal operand
  | .notEqual => return !value.equal operand
  | .greater =>
      .ofExcept (Value.compareBy .greater (fun left right => right.less left) value operand)
  | .greaterOrEqual =>
      .ofExcept
        (Value.compareBy .greaterOrEqual (fun left right => right.lessOrEqual left) value operand)
  | .less => .ofExcept (Value.compareBy .less Value.less value operand)
  | .lessOrEqual => .ofExcept (Value.compareBy .lessOrEqual Value.lessOrEqual value operand)
  | .isIn => .ofExcept (value.isIn operand)
  | .isNotIn => .ofExcept (value.isNotIn operand)
  | .containsAll => .ofExcept (value.containsAll operand)
  | .size => .ofExcept (value.hasSize operand)
  | .present => .ofExcept (flag operand)
  | .kind => .ofExcept (hasKind value operand)
  | .regex => matchesPattern value operand
  | .between => return value.isBetween operand
  | .dateBefore => do .ofExcept (value.isBefore (← get).present operand)
  | .dateAfter => do .ofExcept (value.isAfter (← get).present operand)
  | .contains => return value.containsPart operand
  | .startsWith => return value.startsWith operand
  | .endsWith => return value.endsWith operand
  | .element | .conjunction | .disjunction | .negation => return false

/-- All results are true; there may be none. -/
def allOf (results : List Bool) : Bool :=
  results.all id

/-- One of the results is true. -/
def anyOf (results : List Bool) : Bool :=
  results.any id

/-- Decides a question for presence about a field that is not there. -/
def matchAbsent (operand : Value) : Evaluation Bool := do
  let expected ← .ofExcept (flag operand)
  return !expected

mutual

/-- The value satisfies the condition; a condition without operators is a value
to be equal to. -/
def matchValue (value condition : Value) : Evaluation Bool :=
  match condition with
  | .mapping entries =>
      match shapeOfEntries entries with
      | .mixed => throw (.mixedCondition (entries.map Prod.fst))
      | .operators => allOf <$> matchClauses value entries
      | .plain => pure (value.equal condition)
  | condition => pure (value.equal condition)
termination_by structural condition

/-- The results of the clauses of a condition. -/
def matchClauses (value : Value) (clauses : List (Key × Value)) : Evaluation (List Bool) :=
  match clauses with
  | [] => pure []
  | (key, operand) :: rest => do
      let handler ← Evaluation.findHandler key.label
      let outcome ← (
        match handler with
        | .custom run => Value.isTruthy <$> Evaluation.ofExcept (run value operand)
        | .known .conjunction =>
            match operand with
            | .list conditions => allOf <$> matchEach value conditions
            | .tuple conditions => allOf <$> matchEach value conditions
            | _ => pure false
        | .known .disjunction =>
            match operand with
            | .list conditions => anyOf <$> matchEach value conditions
            | .tuple conditions => anyOf <$> matchEach value conditions
            | _ => pure false
        | .known .negation =>
            match operand with
            | .mapping (_ :: _) => not <$> matchValue value operand
            | _ => pure false
        | .known .element =>
            match operand with
            | .mapping [] => throw (.queryExpected .object)
            | .mapping entries =>
                match shapeOfEntries entries, value.items? with
                | .mixed, _ => throw .mixedQuery
                | _, none => pure false
                | .operators, some elements =>
                    anyOf <$> elements.mapM fun element => allOf <$> matchClauses element entries
                | .plain, some elements =>
                    anyOf <$> elements.mapM fun element =>
                      if element.entries?.isSome then allOf <$> matchFields element entries
                      else pure false
            | other => throw (.queryExpected other.kind)
        | .known operator => applyPlain operator value operand : Evaluation Bool)
      let others ← matchClauses value rest
      pure (outcome :: others)
termination_by structural clauses

/-- The results of a list of conditions on one value. -/
def matchEach (value : Value) (conditions : List Value) : Evaluation (List Bool) :=
  match conditions with
  | [] => pure []
  | condition :: rest => do
      let outcome ← matchValue value condition
      let others ← matchEach value rest
      pure (outcome :: others)
termination_by structural conditions

/-- The results of the fields of a query.  A path that leads nowhere does not
match, unless its condition asks for its absence. -/
def matchFields (document : Value) (query : List (Key × Value)) : Evaluation (List Bool) :=
  match query with
  | [] => pure []
  | (key, condition) :: rest => do
      let outcome ← (
        match key with
        | .text path =>
            match resolve document path with
            | .found value => matchValue value condition
            | .missing _ =>
                match presence? condition with
                | some operand => matchAbsent operand
                | none => pure false
        | _ => throw (.crash .keyNotText) : Evaluation Bool)
      let others ← matchFields document rest
      pure (outcome :: others)
termination_by structural query

end

/-- Applies one operator by name. -/
def apply (name : String) (value operand : Value) : Evaluation Bool := do
  return allOf (← matchClauses value [(.text name, operand)])

/-- A document satisfies a query; only mappings can. -/
def matchDocument (document query : Value) : Evaluation Bool :=
  match document, query with
  | .mapping _, .mapping fields => allOf <$> matchFields document fields
  | .mapping _, _ => throw (.crash .keyNotText)
  | _, _ => pure false

end Condition

end Criteria
