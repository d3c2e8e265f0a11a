import Mathlib.Logic.Function.Basic
import Criteria.Proofs.Schema.Container
import Criteria.Proofs.Specification.PatternUse
import Criteria.Source.Evaluation

/-!
# Uses of a container

The parts of a container are asked for again and again and put to use.  A use acts on the
table and on the cache that its part was made of.  As these are the same ones whichever
part is asked for, the patterns of all uses are kept in one cache.
-/

namespace Criteria

/-- Evaluates sources as `evaluateSources` does, and keeps the engine. -/
def runSources (workers : Option Int) (specification document : Source) :
    StateM Engine (Except SourceError Run) :=
  match loadSources specification document with
  | .error failure => pure (.error (.load failure))
  | .ok (specification, document) => do
      match ← specification.evaluateWithWorkers Predicate.evaluate workers document with
      | some run => return .ok run
      | none => return .error .noWorkers

theorem evaluateSources_eq (engine : Engine) (workers : Option Int)
    (specification document : Source) :
    evaluateSources engine workers specification document =
      ((runSources workers specification document).run engine).1 := by
  unfold evaluateSources runSources
  cases loadSources specification document with
  | error failure => rfl
  | ok loaded =>
      rcases loaded with ⟨specification, document⟩
      dsimp only
      rw [StateT.run_bind]
      dsimp only [Bind.bind]
      cases ((specification.evaluateWithWorkers Predicate.evaluate workers document).run
        engine).1 <;> rfl

/-- The patterns that are asked for when sources are evaluated: none if they do not load. -/
def askedBySources (setting : Setting) (specification document : Source) : List String :=
  match loadSources specification document with
  | .error _ => []
  | .ok (specification, document) => specification.asked setting document

theorem asks_runSources {workers : Option Int} (positive : ∀ count ∈ workers, 1 ≤ count)
    (setting : Setting) (specification document : Source) :
    Asks setting (runSources workers specification document)
      (askedBySources setting specification document) := by
  unfold runSources askedBySources
  cases loadSources specification document with
  | error failure => exact asks_pure _
  | ok loaded =>
      refine (Specification.asks_evaluateWithWorkers setting loaded.2 positive
        loaded.1).andThen fun run => ?_
      cases run <;> exact asks_pure _

/-- What a part of a container can be used for. -/
inductive Use where
  | evaluatePredicate (document : Value) (predicate : Predicate)
  | evaluateSpecification (document : Value) (specification : Specification)
  | evaluateSources (specification document : Source)

namespace Use

/-- The part that is asked for. -/
def part : Use → Part
  | .evaluatePredicate .. => .predicateEvaluator
  | .evaluateSpecification .. => .specificationEvaluator
  | .evaluateSources .. => .pipeline

def perform (workers : Option Int) : Use → StateM Engine Unit
  | .evaluatePredicate document predicate => do
      let _ ← Predicate.evaluate document predicate
  | .evaluateSpecification document specification => do
      let _ ← specification.evaluateWithWorkers Predicate.evaluate workers document
  | .evaluateSources specification document => do
      let _ ← runSources workers specification document

/-- The patterns that a use asks for. -/
def asked (setting : Setting) : Use → List String
  | .evaluatePredicate document predicate => predicate.asked setting document
  | .evaluateSpecification document specification => specification.asked setting document
  | .evaluateSources specification document => askedBySources setting specification document

theorem asks_perform {workers : Option Int} (positive : ∀ count ∈ workers, 1 ≤ count)
    (setting : Setting) (use : Use) : Asks setting (use.perform workers) (use.asked setting) := by
  cases use with
  | evaluatePredicate document predicate =>
      exact (Specification.asks_evaluate setting document predicate).andThen fun _ => asks_pure _
  | evaluateSpecification document specification =>
      exact (Specification.asks_evaluateWithWorkers setting document positive
        specification).andThen fun _ => asks_pure _
  | evaluateSources specification document =>
      exact (asks_runSources positive setting specification document).andThen
        fun _ => asks_pure _

end Use

/-- The state of tables and caches, by the numbers of the objects. -/
structure World where
  registries : Nat → Registry
  caches : Nat → Pattern.Cache

/-- A use of a part that is asked for at a moment, and the time that it is by then. -/
structure Occasion where
  moment : Nat
  present : Instant
  use : Use

def Occasion.asked (names : CharacterNames) (occasion : Occasion) : List String :=
  occasion.use.asked (.known names occasion.present)

namespace Supply

variable {container : Container} (supply : Supply container)

/-- The table and the cache that an evaluator of predicates is made of. -/
def tools? (predicates : Nat) : Option (Nat × Nat) :=
  match supply.made predicates with
  | .predicateEvaluator registry =>
      match supply.made registry with
      | .operatorRegistry patterns => some (registry, patterns)
      | _ => none
  | _ => none

/-- The evaluator of predicates that an evaluator of specifications is made of, with the
number of workers. -/
def staff? (evaluator : Nat) : Option (Nat × Option Int) :=
  match supply.made evaluator with
  | .specificationEvaluator predicates maxWorkers => some (predicates, maxWorkers)
  | _ => none

/-- The evaluator of predicates that an object leaves a use to. -/
def through? (object : Nat) : Use → Option (Nat × Option Int)
  | .evaluatePredicate .. => some (object, none)
  | .evaluateSpecification .. => supply.staff? object
  | .evaluateSources .. =>
      match supply.made object with
      | .pipeline evaluator => supply.staff? evaluator
      | _ => none

/-- The table and the cache that are used on an occasion, and the number of workers. -/
def equipment? (occasion : Occasion) : Option (Nat × Nat × Option Int) := do
  let object ← supply.provide occasion.moment occasion.use.part
  let (predicates, workers) ← supply.through? object occasion.use
  let (registry, patterns) ← supply.tools? predicates
  return (registry, patterns, workers)

/-- Tables of all known operators and empty caches. -/
def newWorld (names : CharacterNames) : World where
  registries _ := .withKnownOperators
  caches object := ((supply.made object).newCache? names).getD (.standard names)

/-- The world after an occasion; nothing happens if the part is not there. -/
def occur (world : World) (occasion : Occasion) : World :=
  match supply.equipment? occasion with
  | some (registry, patterns, workers) =>
      let engine := ((occasion.use.perform workers).run
        ⟨world.registries registry, world.caches patterns, occasion.present⟩).2
      ⟨Function.update world.registries registry engine.registry,
        Function.update world.caches patterns engine.patterns⟩
  | none => world

def worldAfter (names : CharacterNames) (occasions : List Occasion) : World :=
  occasions.foldl supply.occur (supply.newWorld names)

theorem worldAfter_concat (names : CharacterNames) (occasions : List Occasion)
    (occasion : Occasion) :
    supply.worldAfter names (occasions ++ [occasion]) =
      supply.occur (supply.worldAfter names occasions) occasion := by
  rw [worldAfter, List.foldl_concat]
  rfl

/-- The table still has all known operators, and of the cache that was new at first the
patterns have been asked for, and nothing else. -/
structure Holds (core : Core) (new : Pattern.Cache) (world : World) (asked : List String) :
    Prop where
  definitions : (world.registries core.registry).definitions =
    Registry.withKnownOperators.definitions
  caches : world.caches core.patterns = new.after (asked.map .get)

section Occasions

variable {supply : Supply container} {settings : EvaluationSettings} {core : Core}
variable {names : CharacterNames} {world : World} {asked : List String}

/-- Whichever part is asked for, what it is used for comes down to one table and one
cache. -/
theorem Shares.equipment?_eq (shares : supply.Shares settings core) (occasion : Occasion) :
    ∃ workers, supply.equipment? occasion = some (core.registry, core.patterns, workers) ∧
      (workers = none ∨ workers = settings.maxWorkers) := by
  rcases occasion with ⟨moment, present, use⟩
  have tools : supply.tools? core.predicates = some (core.registry, core.patterns) := by
    simp only [tools?, shares.made_predicateEvaluator, shares.made_operatorRegistry]
  have staff : supply.staff? core.evaluator = some (core.predicates, settings.maxWorkers) := by
    simp only [staff?, shares.made_specificationEvaluator]
  cases use with
  | evaluatePredicate document predicate =>
      refine ⟨none, ?_, .inl rfl⟩
      simp [equipment?, Use.part, through?, shares.predicateEvaluator, tools]
  | evaluateSpecification document specification =>
      refine ⟨settings.maxWorkers, ?_, .inr rfl⟩
      simp [equipment?, Use.part, through?, shares.specificationEvaluator, staff, tools]
  | evaluateSources specification document =>
      obtain ⟨pipeline, given, made⟩ := shares.pipeline moment
      refine ⟨settings.maxWorkers, ?_, .inr rfl⟩
      simp [equipment?, Use.part, through?, given, made, staff, tools]

theorem Holds.occur {roomy : 0 < settings.bound} (shares : supply.Shares settings core)
    (positive : settings.Positive)
    (holds : Holds core (.empty names settings.bound roomy) world asked) (occasion : Occasion) :
    Holds core (.empty names settings.bound roomy) (supply.occur world occasion)
      (asked ++ occasion.asked names) := by
  obtain ⟨workers, equipment, given⟩ := shares.equipment?_eq occasion
  have workersPositive : ∀ count ∈ workers, 1 ≤ count := by
    rcases given with rfl | rfl
    · simp
    · exact positive.maxWorkers
  -- The time differs from use to use, but a sound cache and a full table serve at any time.
  have serving : Engine.Serves ⟨world.registries core.registry, world.caches core.patterns,
      occasion.present⟩ (.known names occasion.present) := by
    refine ⟨?_, ?_⟩
    · have sameNames : (world.caches core.patterns).names = names := by
        rw [holds.caches, Pattern.Cache.names_after]
        rfl
      exact congrArg₂ (Setting.mk · · occasion.present) holds.definitions sameNames
    · change (world.caches core.patterns).Sound
      rw [holds.caches]
      exact (Pattern.Cache.recalls_after names settings.bound roomy _).sound
  have asks := Use.asks_perform workersPositive (.known names occasion.present) occasion.use
  rw [Supply.occur, equipment]
  constructor
  · dsimp only
    rw [Function.update_self]
    exact congrArg Setting.definitions (asks.serves serving).setting_eq
  · dsimp only
    rw [Function.update_self, asks.patterns_eq serving, List.map_append,
      Pattern.Cache.after_append, ← holds.caches]
    rfl

theorem Shares.holds_worldAfter {roomy : 0 < settings.bound}
    (shares : supply.Shares settings core) (positive : settings.Positive)
    (new : (supply.made core.patterns).newCache? names =
      some (.empty names settings.bound roomy))
    (occasions : List Occasion) :
    Holds core (.empty names settings.bound roomy) (supply.worldAfter names occasions)
      (occasions.flatMap (Occasion.asked names)) := by
  induction occasions using List.reverseRecOn with
  | nil =>
      refine ⟨rfl, ?_⟩
      change ((supply.made core.patterns).newCache? names).getD (.standard names) = _
      rw [new]
      rfl
  | append_singleton occasions occasion induction =>
      rw [worldAfter_concat, List.flatMap_append, List.flatMap_singleton]
      exact induction.occur shares positive occasion

end Occasions

end Supply

namespace Settings

/-- Settings survive their way into a container.  Settings that were read say what they were
given and are read again as they were; the container that they are passed on to is put
together, and whatever supplies its parts, they are made with one cache of the size that
was asked for, the number of workers that was asked for, and one table of operators.
Whichever of the parts are used, and however often, the cache holds the latest patterns
of all uses taken together, and no more than it has room for. -/
theorem passedOn_assembles {raw : Value} {settings : Settings} (names : CharacterNames)
    (loaded : ofValue raw = .ok settings) :
    Configures raw settings.evaluation ∧
    ofValue settings.passedOn = .ok settings ∧
    Container.ofSettings settings.passedOn = .ok (.ofEvaluation settings.evaluation) ∧
    ∃ roomy : 0 < settings.evaluation.bound,
      let new := Pattern.Cache.empty names settings.evaluation.bound roomy
      (∀ present, Assembly.ofSettings settings.passedOn present names =
        .ok ⟨.start new present, settings.evaluation.maxWorkers⟩) ∧
      ∀ supply : Supply (.ofEvaluation settings.evaluation), ∃ core,
        supply.Shares settings.evaluation core ∧
        (supply.made core.patterns).newCache? names = some new ∧
        ∀ occasions,
          let cache := (supply.worldAfter names occasions).caches core.patterns
          cache.capacity = settings.evaluation.bound ∧
          cache.patterns = ((occasions.flatMap (Occasion.asked names)).filter
            (Pattern.compiles names)).dedup.rtake settings.evaluation.bound ∧
          cache.patterns.length ≤ settings.evaluation.bound := by
  obtain ⟨configures, regular⟩ := configures_of_ofValue loaded
  have contained := Container.ofSettings_passedOn regular
  have roomy := EvaluationSettings.bound_pos regular.positive
  refine ⟨configures, ofValue_passedOn regular, contained, roomy, ?_, ?_⟩
  · intro present
    rw [Assembly.ofSettings_eq, contained]
    exact congrArg Except.ok (Container.assembly_ofEvaluation roomy present names)
  · intro supply
    obtain ⟨core, shares⟩ := supply.exists_shares roomy
    have new : (supply.made core.patterns).newCache? names = _ :=
      shares.made_patternCache ▸ EvaluationSettings.newCache?_patternCache roomy names
    refine ⟨core, shares, new, fun occasions => ?_⟩
    have holds := (shares.holds_worldAfter regular.positive new occasions).caches
    have patterns := Pattern.Cache.patterns_after names settings.evaluation.bound roomy
      ((occasions.flatMap (Occasion.asked names)).map .get)
    rw [Pattern.Cache.history_map_get] at patterns
    dsimp only
    rw [holds, patterns, Pattern.Cache.capacity_after]
    exact ⟨rfl, rfl, Pattern.length_latest_le _ _⟩

/-- A size that is written as a text, and no number of workers.  Of a pattern that a
predicate asks for and one that a specification does the cache keeps the second. -/
theorem passedOn_assembles_of_text_and_null :
    let raw := Value.mapping [
      (.text "evaluation", .mapping [
        (.text "regex_cache_size", .text "1"), (.text "max_workers", .null)]),
      (.text "logging", .mapping [(.text "level", .text "debug")])]
    let settings : Settings := ⟨⟨none, some 1⟩, "DEBUG"⟩
    let supply := Supply.memoizing settings.evaluation
    let document := Value.mapping [(.text "name", .text "abc")]
    let predicate (pattern : String) : Predicate :=
      ⟨pattern, .ofList [("name", .mapping [(.text "$regex", .text pattern)])]⟩
    let occasions : List Occasion := [
      ⟨0, default, .evaluatePredicate document (predicate "a")⟩,
      ⟨1, default, .evaluateSpecification document ⟨"s", [predicate "b"], []⟩⟩]
    ofValue raw = .ok settings ∧ ofValue settings.passedOn = .ok settings ∧
      ∃ core, supply.Shares settings.evaluation core ∧
        ((supply.worldAfter .standard occasions).caches core.patterns).patterns = ["b"] := by
  intro raw settings supply document predicate occasions
  have loaded : ofValue raw = .ok settings := rfl
  obtain ⟨-, again, -, _, -, supplied⟩ := passedOn_assembles .standard loaded
  obtain ⟨core, shares, -, uses⟩ := supplied supply
  refine ⟨loaded, again, core, shares, (uses occasions).2.1.trans ?_⟩
  dsimp only [settings, document, predicate, occasions]
  decide +kernel

end Settings

end Criteria
