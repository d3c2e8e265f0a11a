import Criteria.Proofs.Condition.PatternUse
import Criteria.Proofs.Condition.Table
import Criteria.Proofs.Engine.Assembly
import Criteria.Proofs.Predicate.Verdict

/-!
# Shared engines

Predicates that are evaluated one after the other on one engine have the verdicts
that they have alone.  The table of operators stays what it was, and the cache
holds the patterns that the evaluations have asked for most recently.
-/

namespace Criteria

namespace Query

open Condition Evaluation

variable {setting : Setting}

/-- The clauses that are reached when the fields of a query are decided. -/
def reached (setting : Setting) (document : Value) (fields : List (String × Value)) :
    List Clause :=
  fields.flatMap fun field => fieldClauses setting document (.text field.1) field.2

theorem uses_matchFields (document : Value) (fields : List (String × Value)) :
    (matchFields document fields).Uses setting
      (setting.asked (reached setting document fields)) := by
  induction fields with
  | nil => exact uses_pure true
  | cons field fields induction =>
      have fieldUses : (matchField document field.1 field.2).Uses setting _ :=
        uses_applyField document (.text field.1) field.2
      have answered : (matchField document field.1 field.2).outcome setting = _ :=
        outcome_applyField document (.text field.1) field.2
      refine fieldUses.bind (steady_matchField _ _ _) answered ?_
      have mapped := induction.map
        (fieldHolds setting document (.text field.1) field.2 && ·)
      rwa [map_eq_pure_bind] at mapped

end Query

namespace Predicate

variable {setting : Setting} {engine later : Engine} {document : Value}
  {predicate : Predicate}

/-- The clauses that are applied when a predicate is evaluated: none if data are
missing, and otherwise those that are reached up to the first one with a fault. -/
def applied (setting : Setting) (document : Value) (predicate : Predicate) :
    List Condition.Clause :=
  let fields := predicate.query.fields
  if (Query.missingPaths document fields).isEmpty then
    Condition.untilFault setting.fault? (Query.reached setting document fields)
  else []

/-- A verdict is the same on all engines that serve one setting. -/
theorem evaluate_verdict_eq (serving : engine.Serves setting)
    (laterServing : later.Serves setting) (document : Value) (predicate : Predicate) :
    ((evaluate document predicate).run engine).1 =
      ((evaluate document predicate).run later).1 := by
  have steady := Query.steady_matchFields document predicate.query.fields
  by_cases empty : predicate.query.fields = []
  · rw [evaluate_of_empty empty, evaluate_of_empty empty]
  by_cases complete : Query.missingPaths document predicate.query.fields = []
  · rw [evaluate_of_complete empty complete, evaluate_of_complete empty complete]
    dsimp only
    rw [steady.result serving, steady.result laterServing]
  · rw [evaluate_of_missing empty complete, evaluate_of_missing empty complete]

theorem patterns_evaluate (serving : engine.Serves setting) (document : Value)
    (predicate : Predicate) :
    ((evaluate document predicate).run engine).2.patterns = engine.patterns.after
      (((predicate.applied setting document).filterMap setting.pattern?).map .get) := by
  unfold applied
  by_cases empty : predicate.query.fields = []
  · rw [evaluate_of_empty empty, empty]
    rfl
  by_cases complete : Query.missingPaths document predicate.query.fields = []
  · rw [evaluate_of_complete empty complete]
    simp only [complete, List.isEmpty_nil, if_true]
    exact (Query.uses_matchFields document predicate.query.fields).patterns_eq serving
  · rw [evaluate_of_missing empty complete]
    simp only [List.isEmpty_iff, complete, if_false]
    rfl

/-- Evaluates predicates on documents, one after the other on one engine. -/
def evaluateAll (tasks : List (Value × Predicate)) : StateM Engine (List Verdict) :=
  tasks.mapM fun task => evaluate task.1 task.2

theorem run_evaluateAll_cons (task : Value × Predicate) (tasks : List (Value × Predicate))
    (engine : Engine) :
    (evaluateAll (task :: tasks)).run engine =
      let first := (evaluate task.1 task.2).run engine
      let others := (evaluateAll tasks).run first.2
      (first.1 :: others.1, others.2) := by
  unfold evaluateAll
  rw [List.mapM_cons]
  rfl

/-- A run has the verdicts of its tasks, leaves the setting as it was, and asks for
the patterns of its tasks one after the other. -/
theorem run_evaluateAll (serving : engine.Serves setting)
    (laterServing : later.Serves setting) (tasks : List (Value × Predicate)) :
    let run := (evaluateAll tasks).run engine
    run.1 = tasks.map (fun task => ((evaluate task.1 task.2).run later).1) ∧
      run.2.Serves setting ∧
      run.2.patterns = engine.patterns.after ((tasks.flatMap fun task =>
        (task.2.applied setting task.1).filterMap setting.pattern?).map .get) := by
  induction tasks generalizing engine with
  | nil => exact ⟨rfl, serving, rfl⟩
  | cons task tasks induction =>
      have firstServing : ((evaluate task.1 task.2).run engine).2.Serves setting :=
        (evaluate_result serving).2
      obtain ⟨verdicts, stillServing, patterns⟩ := induction firstServing
      rw [run_evaluateAll_cons]
      dsimp only
      refine ⟨?_, stillServing, ?_⟩
      · rw [List.map_cons, ← verdicts,
          evaluate_verdict_eq serving laterServing task.1 task.2]
      · rw [List.flatMap_cons, List.map_append, Pattern.Cache.after_append,
          ← patterns_evaluate serving, ← patterns]

end Predicate

namespace Condition

/-- The text that the operator for patterns is applied to, if it is. -/
def Clause.regexText? : Clause → Option String
  | .operator name _ (.text pattern) => if name = "$regex" then some pattern else none
  | _ => none

theorem searched?_of_ne_regex {operator : Operator} (notRegex : operator ≠ .regex)
    (operand : Value) : searched? operand (.known operator) = none := by
  cases operator <;> first | rfl | exact absurd rfl notRegex

theorem pattern?_known (names : CharacterNames) (present : Instant) :
    (Setting.known names present).pattern? = Clause.regexText? := by
  funext clause
  cases clause with
  | operator name value operand =>
      rw [Setting.pattern?, Setting.handler?_known]
      by_cases regex : name = "$regex"
      · subst regex
        cases operand <;> rfl
      · have noText : Clause.regexText? (.operator name value operand) = none := by
          cases operand <;> simp [Clause.regexText?, regex]
        rw [noText]
        cases known : Operator.ofName? name with
        | none => rfl
        | some operator =>
            apply searched?_of_ne_regex
            rintro rfl
            exact regex (Operator.name_of_ofName? known).symm
  | _ => rfl

end Condition

namespace Assembly

theorem serves_of_ofSettings {settings : Value} {names : CharacterNames} {present : Instant}
    {assembly : Assembly} (assembled : ofSettings settings present names = .ok assembly) :
    assembly.engine.Serves (.known names present) := by
  obtain ⟨roomy, started⟩ := engine_of_ofSettings assembled
  rw [started]
  exact ⟨rfl, Pattern.Cache.sound_empty _ _ roomy⟩

/-- Sharing an engine shows in no verdict.  Predicates that are evaluated one after
the other in one assembly have the verdicts that each of them has alone in a fresh
one, the table of operators remains the one of all known operators, and the cache
holds the latest distinct patterns that the operator for patterns was applied to,
as many as the settings make room for, malformed ones aside and whatever the
patterns were applied to. -/
theorem evaluateAll_as_alone {settings : Value} {names : CharacterNames} {present : Instant}
    {assembly : Assembly} (assembled : ofSettings settings present names = .ok assembly)
    (tasks : List (Value × Predicate)) :
    let setting := Setting.known names present
    let run := (Predicate.evaluateAll tasks).run assembly.engine
    (∀ others fresh, ofSettings others present names = .ok fresh → run.1 =
      tasks.map fun task => ((Predicate.evaluate task.1 task.2).run fresh.engine).1) ∧
    run.2.registry.definitions = Registry.withKnownOperators.definitions ∧
    run.2.patterns.patterns =
      ((tasks.flatMap fun task =>
        (task.2.applied setting task.1).filterMap Condition.Clause.regexText?).filter
          (Pattern.compiles names)).dedup.rtake (cacheSize settings) := by
  intro setting run
  have serving := serves_of_ofSettings assembled
  obtain ⟨-, stillServing, patterns⟩ := Predicate.run_evaluateAll serving serving tasks
  refine ⟨fun others fresh other => ?_, ?_, ?_⟩
  · exact (Predicate.run_evaluateAll serving (serves_of_ofSettings other) tasks).1
  · exact congrArg Setting.definitions stillServing.setting_eq
  · obtain ⟨roomy, started⟩ := engine_of_ofSettings assembled
    change run.2.patterns = _ at patterns
    rw [Condition.pattern?_known, started] at patterns
    rw [patterns]
    refine (Pattern.Cache.patterns_after names (cacheSize settings) roomy _).trans ?_
    rw [Pattern.Cache.history_map_get]
    rfl

theorem evaluateAll_as_alone_of_malformed_pattern_and_number :
    let settings := Value.mapping [(.text "evaluation", .mapping [
      (.text "regex_cache_size", .integer 1)])]
    let assembly := ofEvaluation ⟨none, some 1⟩ default
    let predicate (pattern : String) : Predicate :=
      ⟨"name", .ofList [("name", .mapping [(.text "$regex", .text pattern)])]⟩
    let run := (Predicate.evaluateAll [
      (.mapping [(.text "name", .text "abc")], predicate "a"),
      (.mapping [(.text "name", .text "abc")], predicate "("),
      (.mapping [(.text "name", .integer 7)], predicate "b")]).run assembly.engine
    ofSettings settings default = .ok assembly ∧
      run.1.map (fun verdict => verdict.result.map PredicateResult.state) =
        [some .matched, some .undetermined, some .notMatched] ∧
      run.2.patterns.patterns = ["b"] := by
  intro settings assembly predicate run
  have assembled : ofSettings settings default = .ok assembly := rfl
  obtain ⟨alone, -, patterns⟩ := evaluateAll_as_alone assembled [
    (.mapping [(.text "name", .text "abc")], predicate "a"),
    (.mapping [(.text "name", .text "abc")], predicate "("),
    (.mapping [(.text "name", .integer 7)], predicate "b")]
  refine ⟨assembled, ?_, ?_⟩
  · rw [alone settings assembly assembled]
    dsimp only [assembly, predicate]
    decide +kernel
  · rw [patterns]
    dsimp only [settings, predicate]
    decide +kernel

end Assembly

end Criteria
