import Mathlib.Data.List.TakeWhile
import Criteria.Proofs.Predicate.Diagnoses
import Criteria.Proofs.Specification.Isolation

/-!
# Reports of runs

What a run reports is put together from the verdicts of its evaluations: one for
each declaration, and one for each member of a group that nobody has declared, as
far as the group gets.  Besides these a run reports its start and its end, names
that are declared again, breakdowns of declared predicates, and groups that fail.
-/

namespace Criteria

theorem Event.shown_debug (events : List Event) : Event.shown "DEBUG" events = events := by
  have lowest (severity : Severity) : levelRank "DEBUG" ≤ severity.rank := by
    cases severity <;> decide
  exact List.filter_eq_self.mpr fun event _ => decide_eq_true (lowest event.severity)

namespace Evaluator

/-- On every engine that serves the setting, the evaluator gives the same verdict on
the predicate, and it leaves an engine that serves the setting.  It is silent if it
breaks down. -/
structure Gives (evaluator : Evaluator) (setting : Setting) (document : Value)
    (verdict : Predicate → Verdict) (predicate : Predicate) : Prop where
  verdicts : ∀ {engine}, engine.Serves setting →
    ((evaluator document predicate).run engine).1 = verdict predicate
  serves : ∀ {engine}, engine.Serves setting →
    ((evaluator document predicate).run engine).2.Serves setting
  silent : (verdict predicate).result = none → (verdict predicate).events = []

/-- The verdicts of an evaluator that breaks down on some names without a word. -/
def silenced (ids : List String) (verdict : Predicate → Verdict) (predicate : Predicate) :
    Verdict :=
  if predicate.id ∈ ids then ⟨none, []⟩ else verdict predicate

variable {evaluator : Evaluator} {setting : Setting} {document : Value}
variable {verdict : Predicate → Verdict} {predicate : Predicate} {ids : List String}

theorem Gives.yields (gives : evaluator.Gives setting document verdict predicate) :
    evaluator.Yields setting document (fun predicate => (verdict predicate).result)
      predicate where
  answers serving := congrArg Verdict.result (gives.verdicts serving)
  serves := gives.serves

theorem gives_evaluate (setting : Setting) (document : Value) (predicate : Predicate) :
    Gives Predicate.evaluate setting document
      (Predicate.verdictIn setting document) predicate where
  verdicts := Predicate.evaluate_verdictIn
  serves serving := (Predicate.evaluate_result serving).2
  silent := nofun

theorem silenced_of_mem (broken : predicate.id ∈ ids) :
    silenced ids verdict predicate = ⟨none, []⟩ :=
  if_pos broken

theorem silenced_of_not_mem (spared : predicate.id ∉ ids) :
    silenced ids verdict predicate = verdict predicate :=
  if_neg spared

theorem result_silenced :
    (silenced ids verdict predicate).result =
      sparing ids (fun predicate => (verdict predicate).result) predicate := by
  rw [silenced, sparing]
  split <;> rfl

theorem Gives.breakingOn (ids : List String)
    (gives : evaluator.Gives setting document verdict predicate) :
    (evaluator.breakingOn ids).Gives setting document (silenced ids verdict) predicate := by
  by_cases broken : predicate.id ∈ ids
  · constructor
    · intro engine _
      rw [breakingOn_of_mem broken, silenced_of_mem broken]
      rfl
    · intro engine serving
      rw [breakingOn_of_mem broken]
      exact serving
    · rw [silenced_of_mem broken]
      exact fun _ => rfl
  · constructor
    · intro engine serving
      rw [breakingOn_of_not_mem broken, silenced_of_not_mem broken]
      exact gives.verdicts serving
    · intro engine serving
      rw [breakingOn_of_not_mem broken]
      exact gives.serves serving
    · rw [silenced_of_not_mem broken]
      exact gives.silent

end Evaluator

namespace Specification

open Evaluator (result_silenced silenced silenced_of_mem silenced_of_not_mem sparing)

/-- The members of a group that nobody has declared, which it evaluates itself. -/
def ownMembers (names : List String) (members : List Predicate) : List Predicate :=
  members.filter fun member => member.id ∉ names

/-- What a group reports: the events of its own members up to the first without a
result, and its failure if there is one. -/
def groupReport (names : List String) (verdict : Predicate → Verdict) (group : Group) :
    List Event :=
  let answered := fun member => (verdict member).result.isSome
  let own := ownMembers names group.members
  ((own.takeWhile answered).flatMap fun member => (verdict member).events) ++
    if own.all answered then [] else [.groupFailed group.id]

theorem groupReport_congr {names others : List String}
    (same : ∀ id, id ∈ names ↔ id ∈ others) (verdict : Predicate → Verdict) :
    groupReport names verdict = groupReport others verdict := by
  have own : ownMembers names = ownMembers others := by
    funext members
    simp only [ownMembers, same]
  funext group
  rw [groupReport, own, groupReport]

variable {evaluator : Evaluator} {setting : Setting} {document : Value}
variable {verdict : Predicate → Verdict} {engine : Engine}

theorem events_evaluatePredicates {predicates : List Predicate}
    (gives : ∀ predicate ∈ predicates, evaluator.Gives setting document verdict predicate)
    (serving : engine.Serves setting) :
    ((evaluatePredicates evaluator document predicates).run engine).1.2 =
      predicates.flatMap fun predicate => settledEvents predicate (verdict predicate) := by
  induction predicates generalizing engine with
  | nil => rfl
  | cons predicate rest induction =>
      have first := gives predicate List.mem_cons_self
      have others := induction
        (fun other member => gives other (List.mem_cons_of_mem _ member))
        (first.serves serving)
      rw [List.flatMap_cons, ← others, ← first.verdicts serving]
      rfl

/-- Every declaration of a name that is known, or becomes so, is reported once. -/
theorem exists_repeated (known : List String) (results : List PredicateResult) :
    ∃ repeated : List String,
      (firstResults known results).2 = repeated.map Event.duplicateId ∧
      ∀ id, repeated.count id = (results.map PredicateResult.predicateId).count id -
        if id ∈ known then 0 else 1 := by
  induction results generalizing known with
  | nil => exact ⟨[], rfl, fun id => by simp⟩
  | cons result rest induction =>
      by_cases member : result.predicateId ∈ known
      · obtain ⟨repeated, events, counts⟩ := induction known
        refine ⟨result.predicateId :: repeated, ?_, fun id => ?_⟩
        · rw [firstResults, if_pos (by simpa using member), List.map_cons, ← events]
        · rw [List.map_cons, List.count_cons, List.count_cons, counts]
          by_cases same : result.predicateId = id
          · subst same
            simp [member]
          · simp [same]
      · obtain ⟨repeated, events, counts⟩ := induction (result.predicateId :: known)
        refine ⟨repeated, ?_, fun id => ?_⟩
        · rw [firstResults, if_neg (by simpa using member), ← events]
        · rw [List.map_cons, List.count_cons, counts]
          by_cases same : result.predicateId = id
          · subst same
            simp [member]
          · simp [same, Ne.symm same]

section Members

variable (declared : List PredicateResult)

/-- A group goes through its own members until one has no result, and it has results
if it gets through all of them. -/
theorem events_memberResults {members : List Predicate}
    (gives : ∀ member ∈ members, evaluator.Gives setting document verdict member)
    (serving : engine.Serves setting) :
    let run := (memberResults evaluator document declared members).run engine
    let own := ownMembers (declared.map PredicateResult.predicateId) members
    let answered := fun member => (verdict member).result.isSome
    run.1.1.isSome = own.all answered ∧
      run.1.2 = (own.takeWhile answered).flatMap fun member => (verdict member).events := by
  induction members generalizing engine with
  | nil => exact ⟨rfl, rfl⟩
  | cons member rest induction =>
      have first := gives member List.mem_cons_self
      have restGives : ∀ other ∈ rest, _ := fun other later =>
        gives other (List.mem_cons_of_mem member later)
      intro run own answered
      cases known : resultNamed? declared member.id with
      | some found =>
          have named : member.id ∈ declared.map PredicateResult.predicateId := by
            by_contra unnamed
            rw [resultNamed?_eq_none_iff.mpr unnamed] at known
            cases known
          have others := induction restGives serving
          have ran : run = _ := run_memberResults_cons_of_declared known
          have ownEq : own = ownMembers (declared.map PredicateResult.predicateId) rest :=
            List.filter_cons_of_neg (by simpa using named)
          rw [ran, ownEq, Option.isSome_map]
          exact others
      | none =>
          have unnamed := resultNamed?_eq_none_iff.mp known
          have others := induction restGives (first.serves serving)
          have ran : run = _ := run_memberResults_cons_of_undeclared known
          have ownEq : own = member ::
              ownMembers (declared.map PredicateResult.predicateId) rest :=
            List.filter_cons_of_pos (by simpa using unnamed)
          rw [ran, ownEq, List.all_cons, List.takeWhile_cons]
          dsimp only
          rw [first.verdicts serving]
          cases answer : (verdict member).result with
          | none =>
              have unanswered : answered member = false := congrArg Option.isSome answer
              rw [unanswered]
              exact ⟨rfl, first.silent answer⟩
          | some result =>
              have hasAnswer : answered member = true := congrArg Option.isSome answer
              rw [hasAnswer, Bool.true_and, if_pos rfl, List.flatMap_cons, ← others.1,
                ← others.2]
              exact ⟨Option.isSome_map, rfl⟩

end Members

theorem events_evaluateGroup (declared : List PredicateResult) {group : Group}
    (gives : ∀ member ∈ group.members,
      evaluator.Gives setting document verdict member)
    (serving : engine.Serves setting) :
    ((evaluateGroup evaluator document declared group).run engine).1.2 =
      groupReport (declared.map PredicateResult.predicateId) verdict group := by
  obtain ⟨answered, events⟩ := events_memberResults declared gives serving
  rw [evaluateGroup, StateT.run_bind]
  dsimp only [Bind.bind]
  rw [groupReport, ← answered, ← events]
  cases ((memberResults evaluator document declared group.members).run engine).1.1 with
  | none => rfl
  | some results => exact (List.append_nil _).symm

theorem events_evaluateGroups (declared : List PredicateResult) {groups : List Group}
    (gives : ∀ group ∈ groups, ∀ member ∈ group.members,
      evaluator.Gives setting document verdict member)
    (serving : engine.Serves setting) :
    ((evaluateGroups evaluator document declared groups).run engine).1.2 =
      groups.flatMap (groupReport (declared.map PredicateResult.predicateId) verdict) := by
  induction groups generalizing engine with
  | nil => rfl
  | cons group rest induction =>
      have groupGives := gives group List.mem_cons_self
      have first := events_evaluateGroup declared groupGives serving
      have after := (run_evaluateGroup declared
        (fun member listed => (groupGives member listed).yields) serving).2
      have others := induction
        (fun other member => gives other (List.mem_cons_of_mem _ member)) after
      rw [List.flatMap_cons, ← first, ← others]
      rfl

/-- What a run reports is put together from the verdicts, whatever engine it starts
on. -/
theorem events_evaluate {specification : Specification}
    (predicatesGiven : ∀ predicate ∈ specification.predicates,
      evaluator.Gives setting document verdict predicate)
    (membersGiven : ∀ group ∈ specification.groups, ∀ member ∈ group.members,
      evaluator.Gives setting document verdict member)
    (serving : engine.Serves setting) :
    let run := ((evaluate evaluator document specification).run engine).1
    let answer? := fun predicate => (verdict predicate).result
    let declared := firstResults [] (specification.predicates.map (settledAnswer answer?))
    run.events =
      [.started specification.id specification.predicates.length
        specification.groups.length] ++
      (specification.predicates.flatMap fun predicate =>
        settledEvents predicate (verdict predicate)) ++
      declared.2 ++
      specification.groups.flatMap
        (groupReport (declared.1.map PredicateResult.predicateId) verdict) ++
      [.completed specification.id run.outcome.summary] := by
  intro run answer? declared
  have results := run_evaluatePredicates
    (fun predicate member => (predicatesGiven predicate member).yields) serving
  have events := events_evaluatePredicates predicatesGiven serving
  have groups := events_evaluateGroups declared.1 membersGiven results.2
  have ran : run.events =
      let first := (evaluatePredicates evaluator document
        specification.predicates).run engine
      let declared := firstResults [] first.1.1
      let groups := (evaluateGroups evaluator document declared.1
        specification.groups).run first.2
      [.started specification.id specification.predicates.length
        specification.groups.length] ++ first.1.2 ++ declared.2 ++ groups.1.2 ++
        [.completed specification.id run.outcome.summary] := rfl
  rw [ran]
  dsimp only
  rw [results.1, events, groups]

section Breakdowns

variable {ids : List String} {predicate : Predicate}

theorem isSome_result_silenced :
    (silenced ids (Predicate.verdictIn setting document) predicate).result.isSome =
      decide (predicate.id ∉ ids) := by
  by_cases broken : predicate.id ∈ ids
  · rw [silenced_of_mem broken]
    simp [broken]
  · rw [silenced_of_not_mem broken]
    simp [broken, Predicate.verdictIn]

theorem settledEvents_silenced :
    settledEvents predicate (silenced ids (Predicate.verdictIn setting document) predicate) =
      if predicate.id ∈ ids then [.internalError predicate.id none]
      else (predicate.diagnosis? setting document).toList := by
  rw [silenced]
  split <;> rfl

theorem groupReport_silenced (names : List String) (group : Group) :
    groupReport names (silenced ids (Predicate.verdictIn setting document)) group =
      let own := ownMembers names group.members
      ((own.takeWhile fun member => member.id ∉ ids).flatMap fun member =>
          (member.diagnosis? setting document).toList) ++
        if own.all fun member => member.id ∉ ids then [] else [.groupFailed group.id] := by
  rw [groupReport]
  simp only [isSome_result_silenced]
  congr 1
  refine List.flatMap_congr fun member taken => ?_
  have spared : member.id ∉ ids := by simpa using List.mem_takeWhile_imp taken
  rw [silenced_of_not_mem spared]
  rfl

end Breakdowns

/-- A run reports every undetermined verdict once.  Its events are its start; the
diagnosis of each declaration, or its breakdown; every declaration after the first of
its name; for each group the diagnoses of its own members, as far as it gets, and its
failure if one of them breaks down; and its end.  An evaluation that decides its
predicate has no diagnosis, any other has one.  All events are shown at the level of
debugging, and at another level those of its severity or above. -/
theorem evaluate_reports {setting : Setting} {engine : Engine}
    (serving : engine.Serves setting) (ids : List String) (document : Value)
    (specification : Specification) :
    let evaluator := Predicate.evaluate.breakingOn ids
    let run := ((evaluate evaluator document specification).run engine).1
    let names := specification.predicates.map Predicate.id
    let diagnoses := fun predicate : Predicate =>
      (predicate.diagnosis? setting document).toList
    (∃ repeated : List String, (∀ id, repeated.count id = names.count id - 1) ∧
      run.events =
        [.started specification.id specification.predicates.length
          specification.groups.length] ++
        (specification.predicates.flatMap fun predicate =>
          if predicate.id ∈ ids then [.internalError predicate.id none]
          else diagnoses predicate) ++
        repeated.map Event.duplicateId ++
        (specification.groups.flatMap fun group =>
          let own := ownMembers names group.members
          ((own.takeWhile fun member => member.id ∉ ids).flatMap diagnoses) ++
            if own.all fun member => member.id ∉ ids then []
            else [.groupFailed group.id]) ++
        [.completed specification.id run.outcome.summary]) ∧
    (∀ predicate : Predicate, predicate.id ∉ ids → ∃ result,
      ((evaluator document predicate).run engine).1 = ⟨some result, diagnoses predicate⟩ ∧
        predicate.Diagnosed setting document result (diagnoses predicate)) ∧
    Event.shown "DEBUG" run.events = run.events ∧
    ∀ level, Event.shown level run.events =
      (Event.shown "DEBUG" run.events).filter fun event =>
        levelRank level ≤ event.severity.rank := by
  intro evaluator run names diagnoses
  let verdict := silenced ids (Predicate.verdictIn setting document)
  have gives (predicate : Predicate) : evaluator.Gives setting document verdict predicate :=
    (Evaluator.gives_evaluate setting document predicate).breakingOn ids
  let answer? := fun predicate => (verdict predicate).result
  let results := specification.predicates.map (settledAnswer answer?)
  have named (predicate : Predicate) :
      (settledAnswer answer? predicate).predicateId = predicate.id := by
    have answers : answer? = sparing ids fun predicate =>
        some (predicate.resultIn setting document) :=
      funext fun _ => result_silenced
    rw [answers, settledAnswer_sparing fun _ => Predicate.resultIn_predicateId,
      PredicateResult.predicateId_underBreakdown, Predicate.resultIn_predicateId]
  have resultNames : results.map PredicateResult.predicateId = names := by
    rw [List.map_map]
    exact List.map_congr_left fun predicate _ => named predicate
  have declaredNames (id : String) :
      id ∈ (firstResults [] results).1.map PredicateResult.predicateId ↔ id ∈ names := by
    rw [mem_map_predicateId_firstResults, resultNames]
  refine ⟨?_, ?_, Event.shown_debug _, fun level => ?_⟩
  · obtain ⟨repeated, told, counts⟩ := exists_repeated [] results
    refine ⟨repeated, fun id => ?_, ?_⟩
    · rw [counts, resultNames]
      rfl
    · have events : run.events = _ := events_evaluate (fun predicate _ => gives predicate)
        (fun _ _ member _ => gives member) serving
      rw [events, told, groupReport_congr declaredNames]
      simp only [verdict, settledEvents_silenced]
      rw [funext (groupReport_silenced names)]
  · intro predicate spared
    refine ⟨predicate.resultIn setting document, ?_,
      Predicate.diagnosed_resultIn setting document predicate⟩
    rw [(gives predicate).verdicts serving]
    exact if_neg spared
  · rw [Event.shown_debug]
    rfl

theorem evaluate_reports_of_repeated_name_and_failed_group :
    let setting := Setting.known .standard default
    let document := Value.mapping [(.text "x", .null)]
    let near := Value.mapping [(.text "$near", .null)]
    let specification : Specification := ⟨"s",
      [⟨"a", Query.ofList [("x", .null)]⟩, ⟨"b", Query.ofList [("y", .null)]⟩,
        ⟨"a", Query.ofList [("x", near)]⟩],
      [⟨"g", .all, [⟨"b", .empty⟩, ⟨"c", .empty⟩]⟩,
        ⟨"h", .any, [⟨"c", .empty⟩, ⟨"d", .empty⟩, ⟨"c", .empty⟩]⟩]⟩
    let run := ((evaluate (Predicate.evaluate.breakingOn ["d"]) document
      specification).run setting.engine).1
    let reported : List Event := [.started "s" 3 2, .missingData "b" ["y"],
      .unknownOperator "a" "$near", .duplicateId "a", .notFound "c", .notFound "c",
      .groupFailed "h", .completed "s" ⟨2, 1, 0, 1⟩]
    setting.engine.Serves setting ∧ run.events = reported ∧
      Event.shown "ERROR" run.events = [.groupFailed "h"] := by
  intro setting document near specification run reported
  have serving := Engine.serves_engine setting
  have events : run.events = reported := by decide +kernel
  obtain ⟨-, -, all, levels⟩ := evaluate_reports serving ["d"] document specification
  refine ⟨serving, events, ?_⟩
  rw [levels, all, events]
  decide

end Specification

end Criteria
