import Criteria.Proofs.Schema.Settings

/-!
# What a container has in common

Whatever supplies the parts of a container that settings were put into, all parts are there
at all moments, and they work with one cache of patterns and one table of operators.
-/

namespace Criteria

namespace Container

/-- The providers that settings lead to, whichever of them are given. -/
def configured (settings : EvaluationSettings) : Part → Provider
  | .patternCache => ⟨.single, .patternCache settings.regexCacheSize⟩
  | .specificationEvaluator =>
      ⟨.single, .specificationEvaluator .predicateEvaluator settings.maxWorkers⟩
  | part => declaration part

theorem provider_ofEvaluation (settings : EvaluationSettings) (part : Part) :
    (ofEvaluation settings).provider part = configured settings part := by
  rcases settings with ⟨_ | workers, _ | size⟩ <;> cases part <;> rfl

end Container

namespace EvaluationSettings

/-- The number of patterns that settings make room for. -/
def bound (settings : EvaluationSettings) : Nat :=
  (settings.regexCacheSize.map Int.toNat).getD Pattern.Cache.defaultCapacity

variable {settings : EvaluationSettings}

theorem bound_pos (positive : settings.Positive) : 0 < settings.bound := by
  rcases settings with ⟨workers, _ | size⟩
  · have standard : 0 < Pattern.Cache.defaultCapacity := by decide
    exact standard
  · have atLeastOne : 1 ≤ size := positive.regexCacheSize size rfl
    change 0 < size.toNat
    omega

theorem newCache?_patternCache (roomy : 0 < settings.bound) (names : CharacterNames) :
    (Construction.patternCache settings.regexCacheSize : Construction α).newCache? names =
      some (.empty names settings.bound roomy) := by
  rcases settings with ⟨workers, _ | size⟩
  · rfl
  · exact dif_pos roomy

theorem isPossible_patternCache (roomy : 0 < settings.bound) :
    (Construction.patternCache settings.regexCacheSize : Construction α).isPossible = true := by
  rcases settings with ⟨workers, _ | size⟩
  · rfl
  · exact decide_eq_true roomy

end EvaluationSettings

namespace Container

theorem assembly_ofEvaluation {settings : EvaluationSettings} (roomy : 0 < settings.bound)
    (present : Instant) (names : CharacterNames) :
    (ofEvaluation settings).assembly present names =
      ⟨.start (.empty names settings.bound roomy) present, settings.maxWorkers⟩ := by
  rw [assembly, provider_ofEvaluation, provider_ofEvaluation]
  simp only [configured, EvaluationSettings.newCache?_patternCache roomy, Option.getD_some,
    Construction.maxWorkers?]

end Container

namespace Supply

variable {settings : EvaluationSettings}
variable (supply : Supply (.ofEvaluation settings)) (part : Part) (built : Construction Nat)

/-- A part is there if it can be made of objects that are there, and it is made of them. -/
theorem exists_made
    (possible : (Container.configured settings part).construction.isPossible = true)
    (supplied : ∀ moment, (Container.configured settings part).construction.mapM?
      (supply.provide moment) = some built) (moment : Nat) :
    ∃ object, supply.provide moment part = some object ∧ supply.made object = built := by
  rw [← Container.provider_ofEvaluation] at possible supplied
  have given := supply.granted possible (fun moment => by simp [supplied]) moment
  obtain ⟨object, given⟩ := Option.isSome_iff_exists.mp given
  obtain ⟨during, made⟩ := supply.injected given
  rw [supplied, Option.some.injEq] at made
  exact ⟨object, given, made.symm⟩

/-- What is made only once is one object. -/
theorem exists_single (single : (Container.configured settings part).lifecycle = .single)
    (possible : (Container.configured settings part).construction.isPossible = true)
    (supplied : ∀ moment, (Container.configured settings part).construction.mapM?
      (supply.provide moment) = some built) :
    ∃ object, (∀ moment, supply.provide moment part = some object) ∧
      supply.made object = built := by
  obtain ⟨object, given, made⟩ := supply.exists_made part built possible supplied 0
  rw [← Container.provider_ofEvaluation] at single
  exact ⟨object, fun moment => (supply.single single moment 0).trans given, made⟩

/-- The objects that all parts of a container work with. -/
structure Core where
  patterns : Nat
  registry : Nat
  predicates : Nat
  evaluator : Nat

/-- At all moments the parts are the objects of the core, which are made of each other, and
every pipeline is made of the evaluator in it. -/
structure Shares {container : Container} (supply : Supply container)
    (settings : EvaluationSettings) (core : Core) : Prop where
  patternCache : ∀ moment, supply.provide moment .patternCache = some core.patterns
  operatorRegistry : ∀ moment, supply.provide moment .operatorRegistry = some core.registry
  predicateEvaluator : ∀ moment,
    supply.provide moment .predicateEvaluator = some core.predicates
  specificationEvaluator : ∀ moment,
    supply.provide moment .specificationEvaluator = some core.evaluator
  made_patternCache : supply.made core.patterns = .patternCache settings.regexCacheSize
  made_operatorRegistry : supply.made core.registry = .operatorRegistry core.patterns
  made_predicateEvaluator : supply.made core.predicates = .predicateEvaluator core.registry
  made_specificationEvaluator : supply.made core.evaluator =
    .specificationEvaluator core.predicates settings.maxWorkers
  pipeline : ∀ moment, ∃ pipeline, supply.provide moment .pipeline = some pipeline ∧
    supply.made pipeline = .pipeline core.evaluator

/-- Each part of the core is there because the one that it is made of is. -/
theorem exists_shares (roomy : 0 < settings.bound) : ∃ core, supply.Shares settings core := by
  obtain ⟨patterns, patternsGiven, patternsMade⟩ := supply.exists_single .patternCache _ rfl
    (EvaluationSettings.isPossible_patternCache roomy) fun _ => rfl
  obtain ⟨registry, registryGiven, registryMade⟩ :=
    supply.exists_single .operatorRegistry (.operatorRegistry patterns) rfl rfl fun moment =>
      congrArg (Option.map Construction.operatorRegistry) (patternsGiven moment)
  obtain ⟨predicates, predicatesGiven, predicatesMade⟩ :=
    supply.exists_single .predicateEvaluator (.predicateEvaluator registry) rfl rfl
      fun moment => congrArg (Option.map Construction.predicateEvaluator) (registryGiven moment)
  obtain ⟨evaluator, evaluatorGiven, evaluatorMade⟩ :=
    supply.exists_single .specificationEvaluator
      (.specificationEvaluator predicates settings.maxWorkers) rfl rfl fun moment =>
        congrArg (Option.map (Construction.specificationEvaluator · settings.maxWorkers))
          (predicatesGiven moment)
  have pipelines := supply.exists_made .pipeline (.pipeline evaluator) rfl fun moment =>
    congrArg (Option.map Construction.pipeline) (evaluatorGiven moment)
  exact ⟨⟨patterns, registry, predicates, evaluator⟩, patternsGiven, registryGiven,
    predicatesGiven, evaluatorGiven, patternsMade, registryMade, predicatesMade, evaluatorMade,
    pipelines⟩

/-- Parts that are made only once have the first numbers, and every moment has a pipeline of
its own. -/
def memoizing (settings : EvaluationSettings) : Supply (.ofEvaluation settings) where
  provide moment
    | .patternCache => some 0
    | .operatorRegistry => some 1
    | .predicateEvaluator => some 2
    | .specificationEvaluator => some 3
    | .pipeline => some (moment + 4)
  made
    | 0 => .patternCache settings.regexCacheSize
    | 1 => .operatorRegistry 0
    | 2 => .predicateEvaluator 1
    | 3 => .specificationEvaluator 2 settings.maxWorkers
    | _ => .pipeline 3
  single := by
    intro part single moment later
    rw [Container.provider_ofEvaluation] at single
    cases part with
    | pipeline => cases single
    | _ => rfl
  injected := by
    intro moment part object given
    rw [Container.provider_ofEvaluation]
    cases part <;> cases given <;> exact ⟨0, rfl⟩
  granted := by
    intro part _ _ moment
    cases part <;> rfl

end Supply

end Criteria
