import Criteria.Proofs.Specification.Runs

/-!
# Completeness of outcomes

An outcome has one result for every declared name, one for every group and one
for every member of a group, as long as no evaluation of a predicate breaks
down.  Each is the result of a predicate on its own, whatever has been evaluated
before it.
-/

namespace Criteria

namespace Evaluator

/-- On every engine that serves the setting, the evaluator finds the result of
the predicate, and it leaves an engine that serves the setting. -/
structure Settles (evaluator : Evaluator) (setting : Setting) (document : Value)
    (result : Predicate → PredicateResult) (predicate : Predicate) : Prop where
  answers : ∀ {engine}, engine.Serves setting →
    ((evaluator document predicate).run engine).1.result = some (result predicate)
  serves : ∀ {engine}, engine.Serves setting →
    ((evaluator document predicate).run engine).2.Serves setting

theorem settles_evaluate (setting : Setting) (document : Value)
    (predicate : Predicate) :
    Settles Predicate.evaluate setting document
      (fun predicate => predicate.resultIn setting document) predicate :=
  have yields := yields_evaluate setting document predicate
  ⟨yields.answers, yields.serves⟩

theorem Settles.breakingOn {evaluator : Evaluator} {setting : Setting}
    {document : Value} {result : Predicate → PredicateResult}
    {predicate : Predicate} {ids : List String} (spared : predicate.id ∉ ids)
    (settles : evaluator.Settles setting document result predicate) :
    (evaluator.breakingOn ids).Settles setting document result predicate := by
  constructor <;> intro engine serving <;> rw [breakingOn_of_not_mem spared]
  · exact settles.answers serving
  · exact settles.serves serving

theorem Settles.yields {evaluator : Evaluator} {setting : Setting}
    {document : Value} {result : Predicate → PredicateResult}
    {predicate : Predicate}
    (settles : evaluator.Settles setting document result predicate) :
    evaluator.Yields setting document (fun predicate => some (result predicate))
      predicate :=
  ⟨settles.answers, settles.serves⟩

end Evaluator

namespace Specification

/-- The result of a member of a group: the declared one under its name, or else
its own. -/
def memberResult (declared : List PredicateResult)
    (result : Predicate → PredicateResult) (member : Predicate) : PredicateResult :=
  (resultNamed? declared member.id).getD (result member)

def groupResult (declared : List PredicateResult)
    (result : Predicate → PredicateResult) (group : Group) : GroupResult :=
  .ofMembers group (group.members.map (memberResult declared result))

/-- Members that all have an answer leave no group without a result. -/
theorem groupAnswer_of_settled (declared : List PredicateResult)
    (result : Predicate → PredicateResult) (group : Group) :
    groupAnswer declared (fun predicate => some (result predicate)) group =
      groupResult declared result group := by
  have answered : ∀ member ∈ group.members,
      memberAnswer? declared (fun predicate => some (result predicate)) member =
        some (memberResult declared result member) := by
    intro member _
    rw [memberAnswer?, memberResult]
    cases resultNamed? declared member.id <;> rfl
  rw [groupAnswer, mapM_eq_some_map answered]
  rfl

/-- What an evaluator that settles all predicates yields, whatever engine it
starts on. -/
theorem outcome_of_settled {evaluator : Evaluator} {setting : Setting}
    {document : Value} {result : Predicate → PredicateResult} {engine : Engine}
    {specification : Specification}
    (predicatesSettled : ∀ predicate ∈ specification.predicates,
      evaluator.Settles setting document result predicate)
    (membersSettled : ∀ group ∈ specification.groups, ∀ member ∈ group.members,
      evaluator.Settles setting document result member)
    (serving : engine.Serves setting) :
    let declared := (firstResults [] (specification.predicates.map result)).1
    ((evaluate evaluator document specification).run engine).1.outcome =
      ⟨specification.id, declared,
        specification.groups.map (groupResult declared result),
        .ofResults declared⟩ := by
  intro declared
  have groups : groupResult declared result =
      groupAnswer declared fun predicate => some (result predicate) :=
    funext fun group => (groupAnswer_of_settled declared result group).symm
  rw [groups]
  exact outcome_of_yields
    (fun predicate member => (predicatesSettled predicate member).yields)
    (fun group member other later => (membersSettled group member other later).yields)
    serving

theorem resultNamed?_map {result : Predicate → PredicateResult}
    (named : ∀ predicate, (result predicate).predicateId = predicate.id)
    (predicates : List Predicate) (id : String) :
    resultNamed? (predicates.map result) id =
      (predicates.find? fun predicate => predicate.id = id).map result := by
  rw [resultNamed?, List.find?_map]
  simp only [Function.comp_def, named]

/-- The results of declared predicates, the first under each name. -/
def declaredResults (setting : Setting) (document : Value) (predicates : List Predicate) :
    List PredicateResult :=
  (firstResults [] (predicates.map fun predicate => predicate.resultIn setting document)).1

/-- What evaluating a specification yields. -/
theorem outcome_evaluate {setting : Setting} {engine : Engine}
    (serving : engine.Serves setting) (document : Value)
    (specification : Specification) :
    let declared := declaredResults setting document specification.predicates
    ((evaluate Predicate.evaluate document specification).run engine).1.outcome =
      ⟨specification.id, declared,
        specification.groups.map (groupResult declared
          fun predicate => predicate.resultIn setting document),
        .ofResults declared⟩ :=
  outcome_of_settled
    (fun predicate _ => Evaluator.settles_evaluate setting document predicate)
    (fun _ _ member _ => Evaluator.settles_evaluate setting document member)
    serving

/-- The first declaration of a name has the result under this name. -/
theorem resultNamed?_declaredResults (setting : Setting) (document : Value)
    (predicates : List Predicate) (id : String) :
    resultNamed? (declaredResults setting document predicates) id =
      (predicates.find? fun predicate => predicate.id = id).map
        fun predicate => predicate.resultIn setting document := by
  rw [declaredResults, resultNamed?_firstResults List.not_mem_nil]
  exact resultNamed?_map (fun _ => Predicate.resultIn_predicateId) predicates id

theorem nodup_declaredResults (setting : Setting) (document : Value)
    (predicates : List Predicate) :
    ((declaredResults setting document predicates).map PredicateResult.predicateId).Nodup :=
  nodup_map_predicateId_firstResults [] _

theorem total_ofResults (results : List PredicateResult) :
    (Summary.ofResults results).total = results.length := by
  induction results with
  | nil => rfl
  | cons result rest induction =>
      simp only [Summary.ofResults, List.countP_cons, List.length_cons] at induction ⊢
      cases result.state <;> simp <;> omega

theorem fullyDetermined_ofResults (results : List PredicateResult) :
    (Summary.ofResults results).fullyDetermined = true ↔
      ∀ result ∈ results, result.state ≠ .undetermined := by
  simp [Summary.fullyDetermined, Summary.ofResults, List.countP_eq_zero]

theorem matched_ofMembers_all {group : Group} (conjunction : group.junction = .all)
    (results : List PredicateResult) :
    (GroupResult.ofMembers group results).matched = true ↔
      ∀ result ∈ results, result.state = .matched := by
  simp [GroupResult.ofMembers, Junction.combine, conjunction,
    PredicateResult.matched]

theorem matched_ofMembers_any {group : Group} (disjunction : group.junction = .any)
    (results : List PredicateResult) :
    (GroupResult.ofMembers group results).matched = true ↔
      ∃ result ∈ results, result.state = .matched := by
  simp [GroupResult.ofMembers, Junction.combine, disjunction,
    PredicateResult.matched]

/-- The outcome of a specification on which no evaluation breaks down: one
result for every declared name, that of its first declaration on its own; one
result for every group, with the declared or else the own results of its
members; the groups decided by these; and the counts of the states. -/
theorem evaluate_complete {setting : Setting} {engine : Engine}
    (serving : engine.Serves setting) (ids : List String) (document : Value)
    (specification : Specification)
    (predicatesSpared : ∀ predicate ∈ specification.predicates, predicate.id ∉ ids)
    (membersSpared : ∀ group ∈ specification.groups, ∀ member ∈ group.members,
      member.id ∉ ids) :
    let evaluator := Predicate.evaluate.breakingOn ids
    let outcome := ((evaluate evaluator document specification).run engine).1.outcome
    ∃ result : Predicate → PredicateResult,
      (∀ predicate, predicate.id ∉ ids →
        ((evaluator document predicate).run engine).1.result =
          some (result predicate)) ∧
      (outcome.predicateResults.map PredicateResult.predicateId).Nodup ∧
      outcome.predicateResults.map PredicateResult.predicateId =
        (specification.predicates.map Predicate.id).eraseDups ∧
      (∀ id, outcome.resultFor? id =
        (specification.predicates.find? fun predicate => predicate.id = id).map
          result) ∧
      outcome.groupResults = specification.groups.map (fun group =>
        .ofMembers group (group.members.map fun member =>
          (outcome.resultFor? member.id).getD (result member))) ∧
      (∀ predicate, predicate.query.fields = [] →
        result predicate = .notFound predicate.id) ∧
      (∀ group ∈ outcome.groupResults, group.junction = .all →
        (group.matched = true ↔
          ∀ member ∈ group.memberResults, member.state = .matched)) ∧
      (∀ group ∈ outcome.groupResults, group.junction = .any →
        (group.matched = true ↔
          ∃ member ∈ group.memberResults, member.state = .matched)) ∧
      outcome.specificationId = specification.id ∧
      outcome.summary.total = outcome.predicateResults.length ∧
      outcome.summary.matched =
        outcome.predicateResults.countP (fun result => result.state = .matched) ∧
      outcome.summary.notMatched =
        outcome.predicateResults.countP (fun result => result.state = .notMatched) ∧
      outcome.summary.undetermined =
        outcome.predicateResults.countP (fun result => result.state = .undetermined) ∧
      (outcome.summary.fullyDetermined = true ↔
        ∀ result ∈ outcome.predicateResults, result.state ≠ .undetermined) := by
  intro evaluator outcome
  let result := fun predicate : Predicate => predicate.resultIn setting document
  have settles (predicate : Predicate) (spared : predicate.id ∉ ids) :
      evaluator.Settles setting document result predicate :=
    (Evaluator.settles_evaluate setting document predicate).breakingOn spared
  have named (predicate : Predicate) : (result predicate).predicateId = predicate.id :=
    Predicate.resultIn_predicateId
  have outcomeEq : outcome = _ :=
    outcome_of_settled
      (fun predicate member => settles predicate (predicatesSpared predicate member))
      (fun group member other later =>
        settles other (membersSpared group member other later))
      serving
  have lookUp (id : String) : outcome.resultFor? id = resultNamed?
      (firstResults [] (specification.predicates.map result)).1 id := by
    rw [outcomeEq]
    rfl
  have groupsEq : outcome.groupResults = specification.groups.map fun group =>
      .ofMembers group (group.members.map fun member =>
        (outcome.resultFor? member.id).getD (result member)) := by
    simp only [lookUp]
    rw [outcomeEq]
    rfl
  refine ⟨result, fun predicate spared => (settles predicate spared).answers serving,
    ?_, ?_, ?_, groupsEq, ?_, ?_, ?_, ?_⟩
  · rw [outcomeEq]
    exact nodup_map_predicateId_firstResults [] _
  · rw [outcomeEq]
    refine (map_predicateId_firstResults [] _).trans ?_
    rw [List.filter_eq_self.mpr (by simp), List.map_map]
    congr 1
    exact List.map_congr_left fun predicate _ => named predicate
  · intro id
    rw [lookUp, resultNamed?_firstResults List.not_mem_nil, resultNamed?_map named]
  · intro predicate empty
    exact Predicate.resultIn_of_empty empty
  · rw [groupsEq, List.forall_mem_map]
    intro group _ conjunction
    exact matched_ofMembers_all conjunction _
  · rw [groupsEq, List.forall_mem_map]
    intro group _ disjunction
    exact matched_ofMembers_any disjunction _
  · rw [outcomeEq]
    exact ⟨rfl, total_ofResults _, rfl, rfl, rfl, fullyDetermined_ofResults _⟩

theorem evaluate_complete_of_repeated_name :
    let setting := Setting.known .standard default
    let query := Query.ofList [("x", .null)]
    let specification : Specification :=
      ⟨"s", [⟨"a", query⟩, ⟨"b", query⟩, ⟨"a", .empty⟩],
        [⟨"g", .any, [⟨"a", .empty⟩, ⟨"c", .empty⟩]⟩]⟩
    let outcome := ((evaluate (Predicate.evaluate.breakingOn ["d"])
      (.mapping [(.text "x", .null)]) specification).run setting.engine).1.outcome
    setting.engine.Serves setting ∧
      (∀ predicate ∈ specification.predicates, predicate.id ∉ ["d"]) ∧
      (∀ group ∈ specification.groups, ∀ member ∈ group.members,
        member.id ∉ ["d"]) ∧
      outcome.predicateResults.map PredicateResult.predicateId = ["a", "b"] ∧
      outcome.summary.total = outcome.predicateResults.length := by
  intro setting query specification outcome
  have serving := Engine.serves_engine setting
  have predicatesSpared : ∀ predicate ∈ specification.predicates,
      predicate.id ∉ ["d"] := by decide
  have membersSpared : ∀ group ∈ specification.groups, ∀ member ∈ group.members,
      member.id ∉ ["d"] := by decide
  obtain ⟨result, -, -, names, -, -, -, -, -, -, total, -⟩ :=
    evaluate_complete serving ["d"] (.mapping [(.text "x", .null)]) specification
      predicatesSpared membersSpared
  exact ⟨serving, predicatesSpared, membersSpared, names.trans (by decide), total⟩

end Specification

end Criteria
