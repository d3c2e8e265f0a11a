import Criteria.Specification.Outcome

/-!
# Events

What an evaluation reports while it runs.  Every event has a severity, and only
those at or above the configured level are shown.
-/

namespace Criteria

inductive Severity where
  | debug
  | info
  | warning
  | error
  | critical
  deriving DecidableEq, Inhabited

namespace Severity

def name : Severity → String
  | .debug => "debug"
  | .info => "info"
  | .warning => "warning"
  | .error => "error"
  | .critical => "critical"

def rank : Severity → Nat
  | .debug => 10
  | .info => 20
  | .warning => 30
  | .error => 40
  | .critical => 50

end Severity

/-- The rank from which on events are shown, by the upper-case name of a level;
any other name stands for the level of information. -/
def levelRank (name : String) : Nat :=
  if name = "NOTSET" then 0
  else if name = "DEBUG" then Severity.debug.rank
  else if name = "WARNING" ∨ name = "WARN" then Severity.warning.rank
  else if name = "ERROR" then Severity.error.rank
  else if name = "CRITICAL" ∨ name = "FATAL" then Severity.critical.rank
  else Severity.info.rank

inductive Event where
  | started (specificationId : String) (predicates groups : Nat)
  | completed (specificationId : String) (summary : Summary)
  | notFound (predicateId : String)
  | missingData (predicateId : String) (paths : List String)
  | unknownOperator (predicateId operator : String)
  | undetermined (predicateId reason : String)
  | internalError (predicateId : String) (error : Option String)
  | duplicateId (predicateId : String)
  | groupFailed (groupId : String)
  deriving DecidableEq, Inhabited

namespace Event

def name : Event → String
  | .started .. => "specification.started"
  | .completed .. => "specification.completed"
  | .notFound _ => "predicate.not_found"
  | .missingData .. => "predicate.missing_data"
  | .unknownOperator .. => "predicate.unknown_operator"
  | .undetermined .. => "predicate.undetermined"
  | .internalError .. => "predicate.internal_error"
  | .duplicateId _ => "predicate.duplicate_id"
  | .groupFailed _ => "group.failed"

def severity : Event → Severity
  | .started .. => .info
  | .completed .. => .info
  | .notFound _ => .warning
  | .missingData .. => .debug
  | .unknownOperator .. => .warning
  | .undetermined .. => .warning
  | .internalError .. => .error
  | .duplicateId _ => .warning
  | .groupFailed _ => .error

/-- The predicate or group that an event is about. -/
def subject : Event → String
  | .started .. => ""
  | .completed .. => ""
  | .notFound id => id
  | .missingData id _ => id
  | .unknownOperator id _ => id
  | .undetermined id _ => id
  | .internalError id _ => id
  | .duplicateId id => id
  | .groupFailed id => id

/-- What an event adds to its subject. -/
def detail : Event → String
  | .unknownOperator _ operator => operator
  | .undetermined _ reason => reason
  | .internalError _ error => error.getD ""
  | _ => ""

/-- The events that are shown at a level. -/
def shown (level : String) (events : List Event) : List Event :=
  events.filter fun event => levelRank level ≤ event.severity.rank

/-- The order of events by name, subject and detail. -/
def precedes (left right : Event) : Bool :=
  if left.name ≠ right.name then decide (left.name < right.name)
  else if left.subject ≠ right.subject then decide (left.subject < right.subject)
  else !decide (right.detail < left.detail)

/-- Events sorted by name, subject and detail, otherwise as they came. -/
def sorted (events : List Event) : List Event :=
  events.mergeSort precedes

end Event

end Criteria
