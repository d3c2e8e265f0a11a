import Criteria.Predicate.Result
import Criteria.Specification.Basic

/-!
# Outcomes

What an evaluation of a specification yields: the results of its predicates and
groups in the order of their declarations, and a count of the states.
-/

namespace Criteria

structure GroupResult where
  groupId : String
  junction : Junction
  memberResults : List PredicateResult
  matched : Bool
  deriving DecidableEq, Inhabited

namespace GroupResult

/-- The reasons of the members that are not matched. -/
def reason (result : GroupResult) : String :=
  String.intercalate ", " ((result.memberResults.filterMap PredicateResult.reason?).filter (· ≠ ""))

/-- The reason, unless there is nothing to explain. -/
def reason? (result : GroupResult) : Option String :=
  if result.reason = "" then none else some result.reason

/-- The result of members combined by a junction. -/
def ofMembers (group : Group) (results : List PredicateResult) : GroupResult :=
  ⟨group.id, group.junction, results,
    group.junction.combine (results.map PredicateResult.matched)⟩

/-- The result of a group that could not be evaluated. -/
def failed (group : Group) : GroupResult :=
  ⟨group.id, group.junction, [], false⟩

end GroupResult

/-- Counts of predicate results by their states. -/
structure Summary where
  total : Nat
  matched : Nat
  notMatched : Nat
  undetermined : Nat
  deriving DecidableEq, Inhabited

namespace Summary

def ofResults (results : List PredicateResult) : Summary :=
  let count (state : State) := results.countP fun result => result.state = state
  { total := count .matched + count .notMatched + count .undetermined
    matched := count .matched
    notMatched := count .notMatched
    undetermined := count .undetermined }

def fullyDetermined (summary : Summary) : Bool :=
  summary.undetermined = 0

end Summary

structure Outcome where
  specificationId : String
  predicateResults : List PredicateResult
  groupResults : List GroupResult
  summary : Summary
  deriving DecidableEq, Inhabited

namespace Outcome

def resultFor? (outcome : Outcome) (predicateId : String) : Option PredicateResult :=
  outcome.predicateResults.find? fun result => result.predicateId = predicateId

def groupFor? (outcome : Outcome) (groupId : String) : Option GroupResult :=
  outcome.groupResults.find? fun result => result.groupId = groupId

end Outcome

end Criteria
