import Criteria.Predicate.Basic

/-!
# Specifications

Predicates that are evaluated together, and groups that combine their results.
-/

namespace Criteria

/-- How a group combines the results of its members. -/
inductive Junction where
  | all
  | any
  deriving DecidableEq, Inhabited

namespace Junction

def name : Junction → String
  | .all => "AND"
  | .any => "OR"

def ofName? (name : String) : Option Junction :=
  [Junction.all, .any].find? fun junction => junction.name = name

def combine (junction : Junction) (results : List Bool) : Bool :=
  match junction with
  | .all => results.all id
  | .any => results.any id

end Junction

/-- A group names its members by predicates of its own; a member whose name is
declared by the specification stands for the declared predicate. -/
structure Group where
  id : String
  junction : Junction
  members : List Predicate
  deriving Inhabited

structure Specification where
  id : String
  predicates : List Predicate
  groups : List Group
  deriving Inhabited

end Criteria
