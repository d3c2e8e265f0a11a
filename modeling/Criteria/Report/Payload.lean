import Criteria.Report.Json
import Criteria.Specification.Outcome

/-!
# Payloads

Results and outcomes as JSON data.
-/

namespace Criteria

namespace PredicateResult

def toJson (result : PredicateResult) : Json :=
  .object [
    ("predicate_id", .text result.predicateId),
    ("state", .text result.state.name),
    ("matched", .boolean result.matched),
    ("missing_paths", .array (result.missingPaths.map Json.text)),
    ("failure_reason", .ofText? result.failureReason),
    ("reason", .ofText? result.reason?)]

end PredicateResult

namespace GroupResult

def toJson (result : GroupResult) : Json :=
  .object [
    ("group_id", .text result.groupId),
    ("junction", .text result.junction.name),
    ("matched", .boolean result.matched),
    ("reason", .ofText? result.reason?),
    ("member_results", .array (result.memberResults.map PredicateResult.toJson))]

end GroupResult

namespace Summary

def toJson (summary : Summary) : Json :=
  .object [
    ("total", .integer summary.total),
    ("matched", .integer summary.matched),
    ("not_matched", .integer summary.notMatched),
    ("undetermined", .integer summary.undetermined),
    ("fully_determined", .boolean summary.fullyDetermined)]

end Summary

namespace Outcome

def toJson (outcome : Outcome) : Json :=
  .object [
    ("specification_id", .text outcome.specificationId),
    ("summary", outcome.summary.toJson),
    ("predicate_results", .array (outcome.predicateResults.map PredicateResult.toJson)),
    ("group_results", .array (outcome.groupResults.map GroupResult.toJson))]

end Outcome

end Criteria
