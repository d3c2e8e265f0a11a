import Criteria.Proofs.Predicate.Crashes
import Criteria.Proofs.Specification.Completeness

/-!
# Explanations of results

A result says as much as its state calls for: nothing besides a decision, and for
an undecided predicate either the paths without data or the reason of the failure.
This holds wherever results come from: a predicate without a query, missing data,
faults, decisions, and breakdowns of the evaluator, for the declared predicates as
well as for the members that groups evaluate themselves.
-/

namespace Criteria

namespace PredicateResult

/-- The result explains the predicate on the document. -/
structure Explains (document : Value) (predicate : Predicate) (result : PredicateResult) :
    Prop where
  named : result.predicateId = predicate.id
  decided : result.state ≠ .undetermined →
    result.missingPaths = [] ∧ result.failureReason = none
  undecided : result.state = .undetermined →
    (result.missingPaths ≠ [] ∧ result.failureReason = none) ∨
      (result.missingPaths = [] ∧
        ∃ reason, reason ≠ "" ∧ result.failureReason = some reason)
  distinct : result.missingPaths.Nodup
  lacking : ∀ path ∈ result.missingPaths,
    path ∈ predicate.query.fields.map Prod.fst ∧ resolve document path = .missing path
  constructed : ofParts? result.predicateId result.state result.missingPaths
    result.failureReason = some result

section Parts

variable (document : Value) (predicate : Predicate)

theorem explains_determined (matched : Bool) :
    (determined predicate.id matched).Explains document predicate where
  named := rfl
  decided _ := ⟨rfl, rfl⟩
  undecided undetermined := by cases matched <;> cases undetermined
  distinct := List.nodup_nil
  lacking := List.forall_mem_nil _
  constructed := by cases matched <;> rfl

theorem explains_failed {reason : String} (notEmpty : reason ≠ "") :
    (failed predicate.id reason).Explains document predicate where
  named := rfl
  decided determined := absurd rfl determined
  undecided _ := .inr ⟨rfl, reason, notEmpty, rfl⟩
  distinct := List.nodup_nil
  lacking := List.forall_mem_nil _
  constructed := rfl

theorem explains_missing
    (incomplete : Query.missingPaths document predicate.query.fields ≠ []) :
    (missing predicate.id (Query.missingPaths document predicate.query.fields)).Explains
      document predicate where
  named := rfl
  decided determined := absurd rfl determined
  undecided _ := .inl ⟨incomplete, rfl⟩
  distinct := Predicate.nodup_missingPaths document predicate.query
  lacking := by
    intro path listed
    obtain ⟨condition, member, lacking⟩ : ∃ condition,
        (path, condition) ∈ predicate.query.fields ∧
          Query.lacksData document (path, condition) = true := by
      simpa [missing, Query.missingPaths_eq] using listed
    refine ⟨List.mem_map_of_mem (f := Prod.fst) member, ?_⟩
    rw [resolve, (Query.lacksData_iff.mp lacking).1]
  constructed := rfl

end Parts

end PredicateResult

namespace Predicate

variable {names : CharacterNames} {present : Instant} {document : Value} {predicate : Predicate}

/-- No fault of a predicate is without a reason. -/
theorem reason_ne_empty
    (complete : Query.missingPaths document predicate.query.fields = []) {fault : Fault}
    (failed : (Query.matchFields document predicate.query.fields).outcome
      (.known names present) = .error fault) : fault.reason ≠ "" := by
  obtain ⟨-, known⟩ := openTo_of_fault complete failed
  rcases known with ordinary | ⟨cause, rfl, -⟩
  · exact ordinary.reason_ne (by simp [Fault.beginnings])
  · unfold Fault.reason
    simp

theorem explains_resultIn (names : CharacterNames) (present : Instant) (document : Value)
    (predicate : Predicate) :
    (predicate.resultIn (.known names present) document).Explains document predicate := by
  by_cases empty : predicate.query.fields = []
  · rw [resultIn_of_empty empty]
    exact PredicateResult.explains_failed document predicate (by decide)
  by_cases complete : Query.missingPaths document predicate.query.fields = []
  · rw [resultIn_of_complete empty complete]
    cases outcome : (Query.matchFields document predicate.query.fields).outcome
        (.known names present) with
    | ok matched => exact PredicateResult.explains_determined document predicate matched
    | error fault =>
        exact PredicateResult.explains_failed document predicate
          (reason_ne_empty complete outcome)
  · rw [resultIn_of_missing empty complete]
    exact PredicateResult.explains_missing document predicate complete

end Predicate

namespace Specification

open Evaluator (sparing)
open PredicateResult (Explains)

/-- The predicate that is evaluated for a name: the first one declared under it, or
else the predicate itself. -/
def standing (predicates : List Predicate) (predicate : Predicate) : Predicate :=
  (predicates.find? fun declared => declared.id = predicate.id).getD predicate

/-- The answers to declared predicates, the first under each name. -/
def declaredAnswers (answer? : Predicate → Option PredicateResult)
    (predicates : List Predicate) : List PredicateResult :=
  (firstResults [] (predicates.map (settledAnswer answer?))).1

section Answers

variable {answer? : Predicate → Option PredicateResult} {document : Value}
variable {predicates : List Predicate}

theorem explains_settledAnswer {predicate : Predicate}
    (explains : ∀ result, answer? predicate = some result →
      result.Explains document predicate) :
    (settledAnswer answer? predicate).Explains document predicate := by
  rw [settledAnswer]
  cases answered : answer? predicate with
  | none => exact PredicateResult.explains_failed document predicate (by decide)
  | some result => exact explains result answered

variable (explains : ∀ predicate result, answer? predicate = some result →
  result.Explains document predicate)
include explains

/-- The first declaration of a name has the answer under this name. -/
theorem resultNamed?_declaredAnswers (id : String) :
    resultNamed? (declaredAnswers answer? predicates) id =
      (predicates.find? fun predicate => predicate.id = id).map (settledAnswer answer?) := by
  rw [declaredAnswers, resultNamed?_firstResults List.not_mem_nil]
  exact resultNamed?_map
    (fun predicate => (explains_settledAnswer (explains predicate)).named) predicates id

theorem explains_of_mem_declaredAnswers {result : PredicateResult}
    (member : result ∈ declaredAnswers answer? predicates) :
    ∃ predicate, (predicates.find? fun predicate => predicate.id = result.predicateId) =
      some predicate ∧ result.Explains document predicate := by
  have found := (mem_iff_resultNamed? (nodup_map_predicateId_firstResults [] _)).mp member
  rw [← declaredAnswers, resultNamed?_declaredAnswers explains] at found
  obtain ⟨predicate, first, rfl⟩ := Option.map_eq_some_iff.mp found
  exact ⟨predicate, first, explains_settledAnswer (explains predicate)⟩

theorem explains_memberAnswer? {member : Predicate} {result : PredicateResult}
    (answered :
      memberAnswer? (declaredAnswers answer? predicates) answer? member = some result) :
    result.Explains document (standing predicates member) := by
  rw [memberAnswer?, resultNamed?_declaredAnswers explains] at answered
  rw [standing]
  cases first : predicates.find? fun predicate => predicate.id = member.id with
  | none =>
      rw [first, Option.map_none, Option.none_or] at answered
      exact explains member result answered
  | some predicate =>
      rw [first, Option.map_some, Option.some_or] at answered
      obtain rfl := Option.some.inj answered
      exact explains_settledAnswer (explains predicate)

/-- The results in a group explain its members, in their order, unless the group has
failed. -/
theorem explains_groupAnswer (group : Group) :
    let results :=
      (groupAnswer (declaredAnswers answer? predicates) answer? group).memberResults
    results = [] ∨ List.Forall₂ (fun member result =>
      result.Explains document (standing predicates member)) group.members results := by
  rw [groupAnswer]
  cases answered : group.members.mapM
      (memberAnswer? (declaredAnswers answer? predicates) answer?) with
  | none => exact .inl rfl
  | some results =>
      exact .inr ((forall₂_of_mapM answered).imp fun _ _ => explains_memberAnswer? explains)

end Answers

/-- Every result of a run explains the predicate that was evaluated for it, wherever
the evaluator breaks down: the results of the outcome the first declarations of their
names, the results in groups these or else the members, and the results that are
built on the way, kept or not, the predicates they are built for. -/
theorem evaluate_explains {names : CharacterNames} {present : Instant} {engine : Engine}
    (serving : engine.Serves (.known names present)) (ids : List String) (document : Value)
    (specification : Specification) :
    let evaluator := Predicate.evaluate.breakingOn ids
    let outcome := ((evaluate evaluator document specification).run engine).1.outcome
    let predicates := specification.predicates
    (∀ result ∈ outcome.predicateResults, ∃ predicate,
      (predicates.find? fun predicate => predicate.id = result.predicateId) =
        some predicate ∧ result.Explains document predicate) ∧
    List.Forall₂ (fun group result => result.memberResults = [] ∨
      List.Forall₂ (fun member result =>
        result.Explains document (standing predicates member))
        group.members result.memberResults)
      specification.groups outcome.groupResults ∧
    ∀ predicate, (settledResult predicate
      ((evaluator document predicate).run engine).1).Explains document predicate := by
  intro evaluator outcome predicates
  let answer? := sparing ids fun predicate =>
    some (predicate.resultIn (.known names present) document)
  have yields (predicate : Predicate) :
      evaluator.Yields (.known names present) document answer? predicate :=
    (Evaluator.yields_evaluate _ document predicate).breakingOn ids
  have explains (predicate : Predicate) (result : PredicateResult)
      (answered : answer? predicate = some result) : result.Explains document predicate := by
    simp only [answer?, sparing] at answered
    split at answered
    · cases answered
    · obtain rfl := Option.some.inj answered
      exact predicate.explains_resultIn names present document
  have outcomeEq : outcome = _ :=
    outcome_of_yields (fun predicate _ => yields predicate)
      (fun _ _ member _ => yields member) serving
  rw [outcomeEq]
  refine ⟨fun result member => explains_of_mem_declaredAnswers explains member, ?_, ?_⟩
  · rw [List.forall₂_map_right_iff, List.forall₂_same]
    exact fun group _ => explains_groupAnswer explains group
  · intro predicate
    have settled := explains_settledAnswer (explains predicate)
    rwa [settledAnswer, ← (yields predicate).answers serving] at settled

theorem evaluate_explains_of_missing_data :
    let setting := Setting.known .standard default
    let document := Value.mapping [(.text "x", .null)]
    let other : Predicate := ⟨"b", Query.ofList [("x", .null), ("y", .null)]⟩
    let specification : Specification := ⟨"s", [⟨"a", .empty⟩, other, ⟨"b", .empty⟩],
      [⟨"g", .all, [⟨"b", .empty⟩, ⟨"c", .empty⟩]⟩]⟩
    let outcome := ((evaluate (Predicate.evaluate.breakingOn ["a", "c"]) document
      specification).run setting.engine).1.outcome
    let result : PredicateResult := ⟨"b", .undetermined, ["y"], none⟩
    setting.engine.Serves setting ∧ result ∈ outcome.predicateResults ∧
      result.Explains document other := by
  intro setting document other specification outcome result
  have serving := Engine.serves_engine setting
  have member : result ∈ outcome.predicateResults := by decide +kernel
  obtain ⟨declared, -⟩ := evaluate_explains serving ["a", "c"] document specification
  obtain ⟨predicate, first, explains⟩ := declared result member
  obtain rfl : other = predicate := Option.some.inj first
  exact ⟨serving, member, explains⟩

end Specification

end Criteria
