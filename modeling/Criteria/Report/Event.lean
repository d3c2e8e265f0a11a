import Criteria.Report.Payload
import Criteria.Specification.Event

/-!
# Events as data

Events as JSON data: the name, the severity, and what belongs to the event.
-/

namespace Criteria

namespace Event

/-- What an event says besides its name and severity. -/
def members : Event → List (String × Json)
  | .started specificationId predicates groups => [
      ("specification_id", .text specificationId),
      ("predicate_count", .integer predicates),
      ("group_count", .integer groups)]
  | .completed specificationId summary => [
      ("specification_id", .text specificationId),
      ("total", .integer summary.total),
      ("matched", .integer summary.matched),
      ("not_matched", .integer summary.notMatched),
      ("undetermined", .integer summary.undetermined),
      ("fully_determined", .boolean summary.fullyDetermined)]
  | .notFound predicateId => [("predicate_id", .text predicateId)]
  | .missingData predicateId paths => [
      ("predicate_id", .text predicateId),
      ("missing_paths", .array (paths.map Json.text))]
  | .unknownOperator predicateId operator => [
      ("predicate_id", .text predicateId),
      ("operator", .text operator)]
  | .undetermined predicateId reason => [
      ("predicate_id", .text predicateId),
      ("reason", .text reason)]
  | .internalError predicateId error =>
      [("predicate_id", .text predicateId)]
        ++ (match error with
          | some kind => [("error", .text kind)]
          | none => [])
        ++ [("exc_info", .boolean true)]
  | .duplicateId predicateId => [("predicate_id", .text predicateId)]
  | .groupFailed groupId => [("group_id", .text groupId), ("exc_info", .boolean true)]

def toJson (event : Event) : Json :=
  .object ([("event", .text event.name), ("log_level", .text event.severity.name)]
    ++ event.members)

end Event

end Criteria
