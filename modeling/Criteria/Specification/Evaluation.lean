import Criteria.Predicate.Evaluation

/-!
# Evaluation of specifications

Every declared predicate is evaluated once; of several with one name the first
counts.  Groups take the results of declared predicates and evaluate the other
members themselves.  A predicate or a group whose evaluation breaks down does
not keep the others from theirs.
-/

namespace Criteria

/-- The outcome of a specification and what was reported on the way. -/
structure Run where
  outcome : Outcome
  events : List Event

namespace Specification

/-- The result of a predicate, also if its evaluation broke down. -/
def settledResult (predicate : Predicate) (verdict : Verdict) : PredicateResult :=
  verdict.result.getD (.failed predicate.id "Internal error during evaluation")

def settledEvents (predicate : Predicate) (verdict : Verdict) : List Event :=
  match verdict.result with
  | some _ => verdict.events
  | none => verdict.events ++ [.internalError predicate.id none]

def evaluatePredicates (evaluator : Evaluator) (document : Value) :
    List Predicate → StateM Engine (List PredicateResult × List Event)
  | [] => pure ([], [])
  | predicate :: rest => do
      let verdict ← evaluator document predicate
      let (results, events) ← evaluatePredicates evaluator document rest
      pure (settledResult predicate verdict :: results, settledEvents predicate verdict ++ events)

/-- Of the results with one name only the first, the others being reported. -/
def firstResults (known : List String) :
    List PredicateResult → List PredicateResult × List Event
  | [] => ([], [])
  | result :: rest =>
      if known.contains result.predicateId then
        let (results, events) := firstResults known rest
        (results, .duplicateId result.predicateId :: events)
      else
        let (results, events) := firstResults (result.predicateId :: known) rest
        (result :: results, events)

/-- The results of the members of a group, or nothing once an evaluation breaks
down. -/
def memberResults (evaluator : Evaluator) (document : Value) (declared : List PredicateResult) :
    List Predicate → StateM Engine (Option (List PredicateResult) × List Event)
  | [] => pure (some [], [])
  | member :: rest =>
      match declared.find? fun result => result.predicateId = member.id with
      | some result => do
          let (results, events) ← memberResults evaluator document declared rest
          pure (results.map (result :: ·), events)
      | none => do
          let verdict ← evaluator document member
          match verdict.result with
          | none => pure (none, verdict.events)
          | some result => do
              let (results, events) ← memberResults evaluator document declared rest
              pure (results.map (result :: ·), verdict.events ++ events)

def evaluateGroup (evaluator : Evaluator) (document : Value) (declared : List PredicateResult)
    (group : Group) : StateM Engine (GroupResult × List Event) := do
  let (results, events) ← memberResults evaluator document declared group.members
  match results with
  | some results => pure (.ofMembers group results, events)
  | none => pure (.failed group, events ++ [.groupFailed group.id])

def evaluateGroups (evaluator : Evaluator) (document : Value) (declared : List PredicateResult) :
    List Group → StateM Engine (List GroupResult × List Event)
  | [] => pure ([], [])
  | group :: rest => do
      let (result, events) ← evaluateGroup evaluator document declared group
      let (results, others) ← evaluateGroups evaluator document declared rest
      pure (result :: results, events ++ others)

/-- Evaluates all predicates and groups on a document. -/
def evaluate (evaluator : Evaluator) (document : Value) (specification : Specification) :
    StateM Engine Run := do
  let (results, evaluationEvents) ←
    evaluatePredicates evaluator document specification.predicates
  let (declared, duplicateEvents) := firstResults [] results
  let (groups, groupEvents) ← evaluateGroups evaluator document declared specification.groups
  let summary := Summary.ofResults declared
  pure {
    outcome := ⟨specification.id, declared, groups, summary⟩
    events :=
      [.started specification.id specification.predicates.length specification.groups.length]
        ++ evaluationEvents ++ duplicateEvents ++ groupEvents
        ++ [.completed specification.id summary] }

/-- Evaluates with a number of workers, which has to be positive if it is
given. -/
def evaluateWithWorkers (evaluator : Evaluator) (workers : Option Int) (document : Value)
    (specification : Specification) : StateM Engine (Option Run) :=
  match workers with
  | some count =>
      if count ≤ 0 then pure none else some <$> specification.evaluate evaluator document
  | none => some <$> specification.evaluate evaluator document

end Specification

end Criteria
