import Criteria.Proofs.Predicate.SharedEngine
import Criteria.Proofs.Specification.Completeness

/-!
# Patterns that a specification asks for

A run asks for the patterns of the predicates that it evaluates, one after the other:
first of all declared ones, and then of the members of groups that are not declared.
-/

namespace Criteria

/-- On every engine that serves the setting, the action asks for the patterns one after
the other, and leaves an engine that serves the setting. -/
structure Asks (setting : Setting) (action : StateM Engine α) (patterns : List String) :
    Prop where
  serves : ∀ {engine}, engine.Serves setting → (action.run engine).2.Serves setting
  patterns_eq : ∀ {engine : Engine}, engine.Serves setting →
    (action.run engine).2.patterns = engine.patterns.after (patterns.map .get)

section Composition

variable {setting : Setting} {action : StateM Engine α} {patterns later : List String}

theorem asks_pure (value : α) : Asks setting (pure value) [] :=
  ⟨fun serving => serving, fun _ => rfl⟩

/-- What comes next may depend on what came out on an engine that serves the setting. -/
theorem Asks.bind {next : α → StateM Engine β} (asks : Asks setting action patterns)
    (nextAsks : ∀ {engine}, engine.Serves setting →
      Asks setting (next (action.run engine).1) later) :
    Asks setting (action >>= next) (patterns ++ later) where
  serves serving := (nextAsks serving).serves (asks.serves serving)
  patterns_eq serving := by
    rw [List.map_append, Pattern.Cache.after_append, ← asks.patterns_eq serving]
    exact (nextAsks serving).patterns_eq (asks.serves serving)

theorem Asks.andThen {next : α → StateM Engine β} (asks : Asks setting action patterns)
    (nextAsks : ∀ result, Asks setting (next result) []) :
    Asks setting (action >>= next) patterns := by
  rw [← List.append_nil patterns]
  exact asks.bind fun _ => nextAsks _

end Composition

/-- The patterns that are asked for when a predicate is evaluated. -/
def Predicate.asked (setting : Setting) (document : Value) (predicate : Predicate) :
    List String :=
  (predicate.applied setting document).filterMap setting.pattern?

namespace Specification

variable (setting : Setting) (document : Value)

theorem asks_evaluate (predicate : Predicate) :
    Asks setting (Predicate.evaluate document predicate) (predicate.asked setting document) :=
  ⟨fun serving => (Predicate.evaluate_result serving).2,
    fun serving => Predicate.patterns_evaluate serving document predicate⟩

theorem asks_evaluatePredicates (predicates : List Predicate) :
    Asks setting (evaluatePredicates Predicate.evaluate document predicates)
      (predicates.flatMap (·.asked setting document)) := by
  induction predicates with
  | nil => exact asks_pure _
  | cons predicate rest induction =>
      rw [List.flatMap_cons]
      exact (asks_evaluate setting document predicate).bind fun _ => induction.andThen fun _ => asks_pure _

/-- The members of a group that a list of results has no result for. -/
def unanswered (declared : List PredicateResult) (members : List Predicate) :
    List Predicate :=
  members.filter fun member => (resultNamed? declared member.id).isNone

theorem asks_memberResults (declared : List PredicateResult) (members : List Predicate) :
    Asks setting (memberResults Predicate.evaluate document declared members)
      ((unanswered declared members).flatMap (·.asked setting document)) := by
  induction members with
  | nil => exact asks_pure _
  | cons member rest induction =>
      unfold unanswered at induction ⊢
      cases known : resultNamed? declared member.id with
      | some found =>
          rw [List.filter_cons_of_neg (by simp [known]), memberResults]
          rw [resultNamed?] at known
          rw [known]
          exact induction.andThen fun _ => asks_pure _
      | none =>
          rw [List.filter_cons_of_pos (by simp [known]), List.flatMap_cons, memberResults]
          rw [resultNamed?] at known
          rw [known]
          refine (asks_evaluate setting document member).bind fun serving => ?_
          rw [(Predicate.evaluate_result serving).1]
          exact induction.andThen fun _ => asks_pure _

theorem asks_evaluateGroups (declared : List PredicateResult) (groups : List Group) :
    Asks setting (evaluateGroups Predicate.evaluate document declared groups)
      ((groups.flatMap fun group => unanswered declared group.members).flatMap
        (·.asked setting document)) := by
  induction groups with
  | nil => exact asks_pure _
  | cons group rest induction =>
      rw [List.flatMap_cons, List.flatMap_append, evaluateGroups]
      refine Asks.bind ?_ fun _ => induction.andThen fun _ => asks_pure _
      refine (asks_memberResults setting document declared group.members).andThen fun results => ?_
      rcases results with ⟨_ | found, events⟩ <;> exact asks_pure _

/-- The predicates that are evaluated: those that are declared, and the members of groups
that none of them has the name of. -/
def evaluated (specification : Specification) : List Predicate :=
  specification.predicates ++ specification.groups.flatMap fun group =>
    group.members.filter fun member => specification.predicates.all (·.id ≠ member.id)

/-- The patterns that are asked for when a specification is evaluated. -/
def asked (setting : Setting) (document : Value) (specification : Specification) :
    List String :=
  specification.evaluated.flatMap (·.asked setting document)

theorem unanswered_declaredResults (predicates members : List Predicate) :
    unanswered (declaredResults setting document predicates) members =
      members.filter fun member => predicates.all (·.id ≠ member.id) := by
  unfold unanswered
  congr 1
  funext member
  rw [resultNamed?_declaredResults, Option.isNone_map, Bool.eq_iff_iff, Option.isNone_iff_eq_none,
    List.find?_eq_none, List.all_eq_true]
  simp

theorem asks_specification (specification : Specification) :
    Asks setting (evaluate Predicate.evaluate document specification)
      (specification.asked setting document) := by
  rw [evaluate, asked, evaluated, List.flatMap_append]
  refine (asks_evaluatePredicates setting document specification.predicates).bind fun serving => ?_
  obtain ⟨results, -⟩ := run_evaluatePredicates
    (fun predicate _ => Evaluator.yields_evaluate setting document predicate) serving
  have declared : (firstResults [] _).1 =
      declaredResults setting document specification.predicates :=
    congrArg (fun results => (firstResults [] results).1) results
  dsimp only
  rw [declared]
  have groups := asks_evaluateGroups setting document
    (declaredResults setting document specification.predicates) specification.groups
  simp only [unanswered_declaredResults] at groups
  exact groups.andThen fun _ => asks_pure _

/-- A specification is evaluated with every number of workers from one on. -/
theorem asks_evaluateWithWorkers {workers : Option Int}
    (positive : ∀ count ∈ workers, 1 ≤ count) (specification : Specification) :
    Asks setting (specification.evaluateWithWorkers Predicate.evaluate workers document)
      (specification.asked setting document) := by
  have asks := (asks_specification setting document specification).andThen
    fun run => asks_pure (some run)
  cases workers with
  | none => exact asks
  | some count =>
      rw [evaluateWithWorkers, if_neg (Int.not_le.mpr (positive count rfl))]
      exact asks

end Specification

end Criteria
