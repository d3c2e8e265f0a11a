import Criteria.Proofs.Predicate.Verdict
import Criteria.Proofs.Specification.FirstResults

/-!
# Runs of specifications

The outcome of a run is a function of what the evaluator answers to each
predicate, whatever has been evaluated before it.  A declared predicate without
an answer is undetermined, and a group fails if the evaluator has no answer to
one of the members that it evaluates itself.
-/

namespace Criteria

namespace Evaluator

/-- On every engine that serves the setting, the evaluator has the same answer to
the predicate, or none, and it leaves an engine that serves the setting. -/
structure Yields (evaluator : Evaluator) (setting : Setting) (document : Value)
    (answer? : Predicate → Option PredicateResult) (predicate : Predicate) : Prop where
  answers : ∀ {engine}, engine.Serves setting →
    ((evaluator document predicate).run engine).1.result = answer? predicate
  serves : ∀ {engine}, engine.Serves setting →
    ((evaluator document predicate).run engine).2.Serves setting

theorem yields_evaluate (setting : Setting) (document : Value) (predicate : Predicate) :
    Yields Predicate.evaluate setting document
      (fun predicate => some (predicate.resultIn setting document)) predicate where
  answers serving := (Predicate.evaluate_result serving).1
  serves serving := (Predicate.evaluate_result serving).2

theorem breakingOn_of_mem {evaluator : Evaluator} {ids : List String}
    {predicate : Predicate} (broken : predicate.id ∈ ids) (document : Value) :
    breakingOn ids evaluator document predicate = pure ⟨none, []⟩ := by
  rw [breakingOn, if_pos (by simpa using broken)]

theorem breakingOn_of_not_mem {evaluator : Evaluator} {ids : List String}
    {predicate : Predicate} (spared : predicate.id ∉ ids) (document : Value) :
    breakingOn ids evaluator document predicate = evaluator document predicate := by
  rw [breakingOn, if_neg (by simpa using spared)]

/-- The answers that are left when the evaluator breaks down on some names. -/
def sparing (ids : List String) (answer? : Predicate → Option PredicateResult)
    (predicate : Predicate) : Option PredicateResult :=
  if predicate.id ∈ ids then none else answer? predicate

theorem Yields.breakingOn {evaluator : Evaluator} {setting : Setting}
    {document : Value} {answer? : Predicate → Option PredicateResult}
    {predicate : Predicate} (ids : List String)
    (yields : evaluator.Yields setting document answer? predicate) :
    (evaluator.breakingOn ids).Yields setting document (sparing ids answer?) predicate := by
  by_cases broken : predicate.id ∈ ids
  · constructor <;> intro engine serving <;> rw [breakingOn_of_mem broken]
    · rw [sparing, if_pos broken]
      rfl
    · exact serving
  · constructor <;> intro engine serving <;> rw [breakingOn_of_not_mem broken]
    · rw [sparing, if_neg broken]
      exact yields.answers serving
    · exact yields.serves serving

end Evaluator

namespace Specification

/-- The answer to a declared predicate, which is undetermined without one. -/
def settledAnswer (answer? : Predicate → Option PredicateResult)
    (predicate : Predicate) : PredicateResult :=
  (answer? predicate).getD (.failed predicate.id "Internal error during evaluation")

/-- The answer to a member of a group: the declared one under its name, or else
its own. -/
def memberAnswer? (declared : List PredicateResult)
    (answer? : Predicate → Option PredicateResult) (member : Predicate) :
    Option PredicateResult :=
  (resultNamed? declared member.id).or (answer? member)

/-- The answers to the members combined, if there is one to each of them. -/
def groupAnswer (declared : List PredicateResult)
    (answer? : Predicate → Option PredicateResult) (group : Group) : GroupResult :=
  match group.members.mapM (memberAnswer? declared answer?) with
  | some results => .ofMembers group results
  | none => .failed group

theorem groupAnswer_group (declared : List PredicateResult)
    (answer? : Predicate → Option PredicateResult) (group : Group) :
    (groupAnswer declared answer? group).groupId = group.id ∧
      (groupAnswer declared answer? group).junction = group.junction := by
  rw [groupAnswer]
  split <;> exact ⟨rfl, rfl⟩

variable {evaluator : Evaluator} {setting : Setting} {document : Value}
variable {answer? : Predicate → Option PredicateResult} {engine : Engine}

theorem run_evaluatePredicates {predicates : List Predicate}
    (yields : ∀ predicate ∈ predicates,
      evaluator.Yields setting document answer? predicate)
    (serving : engine.Serves setting) :
    let run := (evaluatePredicates evaluator document predicates).run engine
    run.1.1 = predicates.map (settledAnswer answer?) ∧ run.2.Serves setting := by
  induction predicates generalizing engine with
  | nil => exact ⟨rfl, serving⟩
  | cons predicate rest induction =>
      have first := yields predicate List.mem_cons_self
      have others := induction
        (fun other member => yields other (List.mem_cons_of_mem _ member))
        (first.serves serving)
      have settled : settledResult predicate
          ((evaluator document predicate).run engine).1 =
            settledAnswer answer? predicate := by
        rw [settledResult, settledAnswer, first.answers serving]
      refine ⟨?_, others.2⟩
      rw [List.map_cons, ← others.1, ← settled]
      rfl

section Answers

variable {item : α} {items : List α} {ask : α → Option β}

theorem mapM_cons_of_some {found : β} (answered : ask item = some found) :
    (item :: items).mapM ask = (items.mapM ask).map (found :: ·) := by
  rw [List.mapM_cons, answered]
  cases items.mapM ask <;> rfl

theorem mapM_cons_of_none (unanswered : ask item = none) :
    (item :: items).mapM ask = none := by
  rw [List.mapM_cons, unanswered]
  rfl

theorem mapM_eq_some_map {result : α → β}
    (answered : ∀ item ∈ items, ask item = some (result item)) :
    items.mapM ask = some (items.map result) := by
  induction items with
  | nil => rfl
  | cons item rest induction =>
      rw [mapM_cons_of_some (answered item List.mem_cons_self),
        induction fun other later => answered other (List.mem_cons_of_mem _ later)]
      rfl

theorem mapM_eq_none (unanswered : ∃ item ∈ items, ask item = none) :
    items.mapM ask = none := by
  obtain ⟨item, member, unanswered⟩ := unanswered
  induction items with
  | nil => cases member
  | cons first rest induction =>
      cases answer : ask first with
      | none => exact mapM_cons_of_none answer
      | some found =>
          rcases List.mem_cons.mp member with rfl | later
          · rw [unanswered] at answer
            cases answer
          · rw [mapM_cons_of_some answer, induction later]
            rfl

theorem forall₂_of_mapM {results : List β} (answered : items.mapM ask = some results) :
    List.Forall₂ (fun item result => ask item = some result) items results := by
  induction items generalizing results with
  | nil =>
      cases answered
      exact .nil
  | cons item rest induction =>
      cases first : ask item with
      | none =>
          rw [mapM_cons_of_none first] at answered
          cases answered
      | some found =>
          rw [mapM_cons_of_some first] at answered
          obtain ⟨others, restAnswered, rfl⟩ := Option.map_eq_some_iff.mp answered
          exact .cons first (induction restAnswered)

end Answers

section Members

variable {declared : List PredicateResult} {member : Predicate}
variable {rest : List Predicate}

theorem run_memberResults_cons_of_declared {found : PredicateResult}
    (known : resultNamed? declared member.id = some found) :
    (memberResults evaluator document declared (member :: rest)).run engine =
      let others := (memberResults evaluator document declared rest).run engine
      ((others.1.1.map (found :: ·), others.1.2), others.2) := by
  rw [memberResults]
  simp only [resultNamed?] at known
  rw [known]
  rfl

/-- Nothing is evaluated after a member without an answer. -/
theorem run_memberResults_cons_of_undeclared
    (unknown : resultNamed? declared member.id = none) :
    (memberResults evaluator document declared (member :: rest)).run engine =
      let first := (evaluator document member).run engine
      match first.1.result with
      | none => ((none, first.1.events), first.2)
      | some own =>
          let others := (memberResults evaluator document declared rest).run first.2
          ((others.1.1.map (own :: ·), first.1.events ++ others.1.2), others.2) := by
  rw [memberResults]
  simp only [resultNamed?] at unknown
  rw [unknown]
  dsimp only
  rw [StateT.run_bind]
  dsimp only [Bind.bind]
  cases ((evaluator document member).run engine).1.result <;> rfl

end Members

theorem run_memberResults (declared : List PredicateResult)
    {members : List Predicate}
    (yields : ∀ member ∈ members,
      evaluator.Yields setting document answer? member)
    (serving : engine.Serves setting) :
    let run := (memberResults evaluator document declared members).run engine
    run.1.1 = members.mapM (memberAnswer? declared answer?) ∧
      run.2.Serves setting := by
  induction members generalizing engine with
  | nil => exact ⟨rfl, serving⟩
  | cons member rest induction =>
      have first := yields member List.mem_cons_self
      have restYields : ∀ other ∈ rest, _ := fun other later =>
        yields other (List.mem_cons_of_mem member later)
      cases known : resultNamed? declared member.id with
      | some found =>
          have others := induction restYields serving
          have answered : memberAnswer? declared answer? member = some found := by
            rw [memberAnswer?, known, Option.some_or]
          rw [run_memberResults_cons_of_declared known, mapM_cons_of_some answered,
            ← others.1]
          exact ⟨rfl, others.2⟩
      | none =>
          have others := induction restYields (first.serves serving)
          have answered : memberAnswer? declared answer? member =
              ((evaluator document member).run engine).1.result := by
            rw [memberAnswer?, known, Option.none_or, first.answers serving]
          rw [run_memberResults_cons_of_undeclared known]
          dsimp only
          cases answer : ((evaluator document member).run engine).1.result with
          | none =>
              rw [mapM_cons_of_none (answered.trans answer)]
              exact ⟨rfl, first.serves serving⟩
          | some own =>
              rw [mapM_cons_of_some (answered.trans answer), ← others.1]
              exact ⟨rfl, others.2⟩

theorem run_evaluateGroup (declared : List PredicateResult) {group : Group}
    (yields : ∀ member ∈ group.members,
      evaluator.Yields setting document answer? member)
    (serving : engine.Serves setting) :
    let run := (evaluateGroup evaluator document declared group).run engine
    run.1.1 = groupAnswer declared answer? group ∧ run.2.Serves setting := by
  obtain ⟨members, after⟩ := run_memberResults declared yields serving
  rw [evaluateGroup, StateT.run_bind]
  dsimp only [Bind.bind]
  rw [groupAnswer, ← members]
  cases ((memberResults evaluator document declared group.members).run engine).1.1 with
  | none => exact ⟨rfl, after⟩
  | some results => exact ⟨rfl, after⟩

theorem run_evaluateGroups (declared : List PredicateResult) {groups : List Group}
    (yields : ∀ group ∈ groups, ∀ member ∈ group.members,
      evaluator.Yields setting document answer? member)
    (serving : engine.Serves setting) :
    let run := (evaluateGroups evaluator document declared groups).run engine
    run.1.1 = groups.map (groupAnswer declared answer?) ∧ run.2.Serves setting := by
  induction groups generalizing engine with
  | nil => exact ⟨rfl, serving⟩
  | cons group rest induction =>
      have first :=
        run_evaluateGroup declared (yields group List.mem_cons_self) serving
      have others := induction
        (fun other member => yields other (List.mem_cons_of_mem _ member)) first.2
      refine ⟨?_, others.2⟩
      rw [List.map_cons, ← first.1, ← others.1]
      rfl

/-- What a run yields is read off the answers to the predicates, whatever engine
it starts on. -/
theorem outcome_of_yields {specification : Specification}
    (predicatesYield : ∀ predicate ∈ specification.predicates,
      evaluator.Yields setting document answer? predicate)
    (membersYield : ∀ group ∈ specification.groups, ∀ member ∈ group.members,
      evaluator.Yields setting document answer? member)
    (serving : engine.Serves setting) :
    let declared :=
      (firstResults [] (specification.predicates.map (settledAnswer answer?))).1
    ((evaluate evaluator document specification).run engine).1.outcome =
      ⟨specification.id, declared,
        specification.groups.map (groupAnswer declared answer?),
        .ofResults declared⟩ := by
  intro declared
  have results := run_evaluatePredicates predicatesYield serving
  have groups := run_evaluateGroups declared membersYield results.2
  have ran : ((evaluate evaluator document specification).run engine).1.outcome =
      let run := (evaluatePredicates evaluator document
        specification.predicates).run engine
      let declared := (firstResults [] run.1.1).1
      let groups := (evaluateGroups evaluator document declared
        specification.groups).run run.2
      ⟨specification.id, declared, groups.1.1, .ofResults declared⟩ := rfl
  rw [ran]
  dsimp only
  rw [results.1, groups.1]

end Specification

end Criteria
