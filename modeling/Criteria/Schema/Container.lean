import Criteria.Schema.Assembly

/-!
# Containers

How the parts of an engine are made of each other.  A container declares a provider for
every part, and settings put others in the place of some of them.  What is given when a
part is asked for is left to a supply, which is bound to nothing but the laws that are
stated with it.
-/

namespace Criteria

inductive Part where
  | patternCache
  | operatorRegistry
  | predicateEvaluator
  | specificationEvaluator
  | pipeline
  deriving DecidableEq, Inhabited

/-- How something is made, and of what. -/
inductive Construction (α : Type) where
  | patternCache (capacity : Option Int)
  | operatorRegistry (patterns : α)
  | predicateEvaluator (registry : α)
  | specificationEvaluator (predicates : α) (maxWorkers : Option Int)
  | pipeline (evaluator : α)
  deriving DecidableEq

namespace Construction

/-- The same construction of other things, if they are all there. -/
def mapM? (provide : α → Option β) : Construction α → Option (Construction β)
  | .patternCache capacity => some (.patternCache capacity)
  | .operatorRegistry patterns => (provide patterns).map .operatorRegistry
  | .predicateEvaluator registry => (provide registry).map .predicateEvaluator
  | .specificationEvaluator predicates maxWorkers =>
      (provide predicates).map fun predicates => .specificationEvaluator predicates maxWorkers
  | .pipeline evaluator => (provide evaluator).map .pipeline

/-- The cache that is made, unless it would have no room. -/
def newCache? (names : CharacterNames) : Construction α → Option Pattern.Cache
  | .patternCache none => some (.standard names)
  | .patternCache (some capacity) => Pattern.Cache.ofCapacity? capacity names
  | _ => none

def maxWorkers? : Construction α → Option Int
  | .specificationEvaluator _ maxWorkers => maxWorkers
  | _ => none

/-- Nothing but a cache without room is impossible to make. -/
def isPossible : Construction α → Bool
  | .patternCache capacity => capacity.all fun size => 0 < size.toNat
  | _ => true

end Construction

/-- A part is made only once, or anew each time. -/
inductive Lifecycle where
  | single
  | fresh
  deriving DecidableEq

structure Provider where
  lifecycle : Lifecycle
  construction : Construction Part
  deriving DecidableEq

structure Container where
  declared : Part → Provider
  overriding : Part → Option Provider

namespace Container

def declaration : Part → Provider
  | .patternCache => ⟨.single, .patternCache none⟩
  | .operatorRegistry => ⟨.single, .operatorRegistry .patternCache⟩
  | .predicateEvaluator => ⟨.single, .predicateEvaluator .operatorRegistry⟩
  | .specificationEvaluator => ⟨.single, .specificationEvaluator .predicateEvaluator none⟩
  | .pipeline => ⟨.fresh, .pipeline .specificationEvaluator⟩

def standard : Container :=
  ⟨declaration, fun _ => none⟩

/-- Puts a provider in the place of the one that is declared. -/
def override (container : Container) (part : Part) (provider : Provider) : Container :=
  { container with
    overriding := fun other =>
      if other = part then some provider else container.overriding other }

/-- The provider that is asked for a part. -/
def provider (container : Container) (part : Part) : Provider :=
  (container.overriding part).getD (container.declared part)

def withCacheSize (container : Container) : Option Int → Container
  | some size => container.override .patternCache ⟨.single, .patternCache (some size)⟩
  | none => container

def withWorkers (container : Container) : Option Int → Container
  | some count =>
      container.override .specificationEvaluator
        ⟨.single, .specificationEvaluator .predicateEvaluator (some count)⟩
  | none => container

def ofEvaluation (settings : EvaluationSettings) : Container :=
  (standard.withCacheSize settings.regexCacheSize).withWorkers settings.maxWorkers

/-- The container that settings ask for; settings that are empty ask for nothing. -/
def ofSettings (settings : Value) : Except AssemblyError Container :=
  if !settings.isTruthy then .ok standard
  else
    match settings with
    | .mapping entries => do
        let evaluation ← Assembly.readPassedOn entries
        return ofEvaluation evaluation
    | _ => .error .settingsNotMapping

/-- What the providers amount to. -/
def assembly (container : Container) (present : Instant) (names : CharacterNames) :
    Assembly :=
  let construction := (container.provider .patternCache).construction
  let patterns := (construction.newCache? names).getD (.standard names)
  ⟨.start patterns present,
    (container.provider .specificationEvaluator).construction.maxWorkers?⟩

end Container

/-- What is given at successive moments when parts of a container are asked for: objects,
known by number, each made in one way for good. -/
structure Supply (container : Container) where
  provide : Nat → Part → Option Nat
  made : Nat → Construction Nat
  /-- What is made only once is the same object at all moments. -/
  single : ∀ {part}, (container.provider part).lifecycle = .single →
    ∀ moment later, provide moment part = provide later part
  /-- An object is made as its provider says, of what is given for the parts named there. -/
  injected : ∀ {moment part object}, provide moment part = some object →
    ∃ during, (container.provider part).construction.mapM? (provide during) =
      some (made object)
  /-- A part is given if it can be made and the parts that it is made of are given. -/
  granted : ∀ {part}, (container.provider part).construction.isPossible = true →
    (∀ moment, ((container.provider part).construction.mapM? (provide moment)).isSome = true) →
    ∀ moment, (provide moment part).isSome = true

end Criteria
