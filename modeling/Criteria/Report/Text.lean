import Criteria.Specification.Outcome

/-!
# Text reports

An outcome in lines: one for the specification, one for each predicate, one for
each group, and a summary.
-/

namespace Criteria

namespace PredicateResult

/-- The line of a predicate; what is plainly not matched needs no explanation. -/
def line (result : PredicateResult) : String :=
  let explanation :=
    match result.state, result.reason? with
    | .notMatched, _ => ""
    | _, some reason => " - " ++ reason
    | _, none => ""
  "  [" ++ result.state.name ++ "] " ++ result.predicateId ++ explanation

end PredicateResult

namespace GroupResult

def line (result : GroupResult) : String :=
  "  [" ++ (if result.matched then "matched" else "not matched") ++ "] " ++ result.groupId
    ++ " (" ++ result.junction.name ++ "): "
    ++ String.intercalate ", " (result.memberResults.map PredicateResult.predicateId)

end GroupResult

namespace Summary

def line (summary : Summary) : String :=
  "Summary: total=" ++ toString summary.total
    ++ " matched=" ++ toString summary.matched
    ++ " not_matched=" ++ toString summary.notMatched
    ++ " undetermined=" ++ toString summary.undetermined
    ++ " fully_determined=" ++ (if summary.fullyDetermined then "true" else "false")

end Summary

namespace Outcome

def lines (outcome : Outcome) : List String :=
  let groups :=
    if outcome.groupResults.isEmpty then []
    else "Groups:" :: outcome.groupResults.map GroupResult.line
  ["Specification: " ++ outcome.specificationId]
    ++ outcome.predicateResults.map PredicateResult.line ++ groups ++ [outcome.summary.line]

def renderText (outcome : Outcome) : String :=
  String.intercalate "\n" outcome.lines

end Outcome

end Criteria
