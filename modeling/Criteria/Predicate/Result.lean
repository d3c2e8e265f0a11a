/-!
# Results of predicates

The three states a predicate can be in after its evaluation, and the explanation
that goes with them.
-/

namespace Criteria

inductive State where
  | matched
  | notMatched
  | undetermined
  deriving DecidableEq, Inhabited

namespace State

def name : State → String
  | .matched => "MATCHED"
  | .notMatched => "NOT_MATCHED"
  | .undetermined => "UNDETERMINED"

def ofName? (name : String) : Option State :=
  [State.matched, .notMatched, .undetermined].find? fun state => state.name = name

end State

structure PredicateResult where
  predicateId : String
  state : State
  missingPaths : List String
  failureReason : Option String
  deriving DecidableEq, Inhabited

namespace PredicateResult

/-- The text with which a result of a match that explains itself is refused. -/
def matchedMessage : String :=
  "A matched predicate cannot carry missing paths or a failure reason."

/-- A match has nothing to explain. -/
def isConsistent (result : PredicateResult) : Bool :=
  result.state ≠ .matched || (result.missingPaths.isEmpty && result.failureReason.getD "" = "")

/-- The result with given parts, unless it is a match that explains itself. -/
def ofParts? (predicateId : String) (state : State) (missingPaths : List String)
    (failureReason : Option String) : Option PredicateResult :=
  let result : PredicateResult := ⟨predicateId, state, missingPaths, failureReason⟩
  if result.isConsistent then some result else none

def determined (predicateId : String) (matched : Bool) : PredicateResult :=
  ⟨predicateId, if matched then .matched else .notMatched, [], none⟩

def missing (predicateId : String) (paths : List String) : PredicateResult :=
  ⟨predicateId, .undetermined, paths, none⟩

def failed (predicateId reason : String) : PredicateResult :=
  ⟨predicateId, .undetermined, [], some reason⟩

/-- The result of a predicate without any conditions. -/
def notFound (predicateId : String) : PredicateResult :=
  failed predicateId "Predicate definition not found"

def matched (result : PredicateResult) : Bool :=
  result.state = .matched

def isDetermined (result : PredicateResult) : Bool :=
  result.state ≠ .undetermined

/-- A reason that is present and not empty, or a general one. -/
def failureText (result : PredicateResult) : String :=
  match result.failureReason with
  | some reason => if reason = "" then "Evaluation failed" else reason
  | none => "Evaluation failed"

/-- Why the predicate is not matched. -/
def reason? (result : PredicateResult) : Option String :=
  match result.state with
  | .matched => none
  | state =>
      if !result.missingPaths.isEmpty then
        some ("Missing data at: " ++ String.intercalate ", " result.missingPaths)
      else if state = .undetermined then some result.failureText
      else some "Non-matching values"

end PredicateResult

end Criteria
