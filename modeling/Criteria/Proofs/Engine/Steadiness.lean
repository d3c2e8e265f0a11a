import Criteria.Condition.Engine

/-!
# Steadiness of evaluations

An engine changes while it is used: the first look-up freezes its table, and its
cache takes in patterns.  Neither shows in a result.  `Engine.Serves` says that
an engine has the table, the names of characters and the present of a setting and
stores every pattern with its own compilation; `Evaluation.Steady` says that an
evaluation yields the same on all engines that serve one setting, and that they
still serve it afterwards.  What it yields is its `outcome` in the setting.
-/

namespace Criteria

namespace Pattern.Cache

/-- Every pattern is stored with its own compilation. -/
def Sound (cache : Cache) : Prop :=
  ∀ entry ∈ cache.entries, compile cache.names entry.1 = .ok entry.2

theorem sound_empty (names : CharacterNames) (capacity : Nat)
    (capacityPositive : 0 < capacity) : (empty names capacity capacityPositive).Sound := by
  intro entry member
  cases member

theorem Sound.compile_of_find? {cache : Cache} (sound : cache.Sound)
    {pattern : String} {compiled : Compiled}
    (found : cache.find? pattern = some compiled) :
    compile cache.names pattern = .ok compiled := by
  obtain ⟨entry, entryFound, rfl⟩ := Option.map_eq_some_iff.mp found
  have samePattern : entry.1 = pattern := by
    simpa using List.find?_some entryFound
  rw [← samePattern]
  exact sound entry (List.mem_of_find?_eq_some entryFound)

theorem Sound.moveToEnd {cache : Cache} (sound : cache.Sound)
    {pattern : String} {compiled : Compiled}
    (compilation : compile cache.names pattern = .ok compiled) :
    ∀ entry ∈ moveToEnd pattern compiled cache.entries,
      compile cache.names entry.1 = .ok entry.2 := by
  intro entry member
  rcases List.mem_append.mp member with kept | latest
  · exact sound entry (List.mem_filter.mp kept).1
  · rw [List.mem_singleton.mp latest]
    exact compilation

theorem Sound.store {cache : Cache} (sound : cache.Sound)
    {pattern : String} {compiled : Compiled}
    (compilation : compile cache.names pattern = .ok compiled) :
    (cache.store pattern compiled).Sound := by
  intro entry member
  exact sound.moveToEnd compilation entry (List.mem_of_mem_drop member)

/-- Asking a sound cache for a pattern is compiling the pattern. -/
theorem Sound.get_eq {cache : Cache} (sound : cache.Sound) (pattern : String) :
    (cache.get pattern).1 = compile cache.names pattern := by
  cases found : cache.find? pattern with
  | some compiled =>
      simpa [get, touch, found] using (sound.compile_of_find? found).symm
  | none =>
      cases compilation : compile cache.names pattern <;>
        simp [get, touch, found, compilation]

theorem Sound.get {cache : Cache} (sound : cache.Sound) (pattern : String) :
    (cache.get pattern).2.Sound := by
  cases found : cache.find? pattern with
  | some compiled =>
      have moved := sound.moveToEnd (sound.compile_of_find? found)
      simp only [Cache.get, touch, found]
      exact moved
  | none =>
      cases compilation : compile cache.names pattern with
      | ok compiled =>
          simpa [Cache.get, touch, found, compilation] using
            sound.store compilation
      | error rejection =>
          simpa [Cache.get, touch, found, compilation] using sound

/-- Asking for a pattern leaves the names of characters as they are. -/
theorem names_get (cache : Cache) (pattern : String) :
    (cache.get pattern).2.names = cache.names := by
  unfold Cache.get touch
  cases cache.find? pattern with
  | some compiled => rfl
  | none => cases compile cache.names pattern <;> rfl

end Pattern.Cache

/-- What evaluations depend on: the table of operators, the names of characters and
the present. -/
structure Setting where
  definitions : List Definition
  names : CharacterNames
  present : Instant

namespace Setting

/-- The table of all known operators. -/
def known (names : CharacterNames) (present : Instant) : Setting :=
  ⟨Registry.withKnownOperators.definitions, names, present⟩

/-- An engine that has not been used. -/
def engine (setting : Setting) : Engine :=
  ⟨⟨setting.definitions, false⟩, .standard setting.names, setting.present⟩

/-- The handler that the table has under a name. -/
def handler? (setting : Setting) (name : String) : Option Handler :=
  (setting.definitions.find? fun definition => definition.name = name).map
    Definition.handler

end Setting

namespace Engine

def setting (engine : Engine) : Setting :=
  ⟨engine.registry.definitions, engine.patterns.names, engine.present⟩

/-- The engine has the table, the names and the present of a setting, and a sound
cache. -/
structure Serves (engine : Engine) (setting : Setting) : Prop where
  setting_eq : engine.setting = setting
  sound : engine.patterns.Sound

theorem serves_engine (setting : Setting) : setting.engine.Serves setting :=
  ⟨rfl, Pattern.Cache.sound_empty _ _ _⟩

end Engine

namespace Evaluation

/-- What an evaluation yields on an engine that has not been used. -/
def outcome (setting : Setting) (evaluation : Evaluation α) : Except Fault α :=
  (evaluation.run.run setting.engine).1

/-- The evaluation yields its outcome on every engine that serves the setting,
and leaves one that serves it. -/
structure Steady (evaluation : Evaluation α) : Prop where
  result : ∀ {setting engine}, engine.Serves setting →
    (evaluation.run.run engine).1 = evaluation.outcome setting
  serves : ∀ {setting engine}, engine.Serves setting →
    (evaluation.run.run engine).2.Serves setting

/-- An evaluation is steady if what it yields can be read off the setting. -/
theorem Steady.of_result {evaluation : Evaluation α}
    (result : Setting → Except Fault α)
    (yields : ∀ {setting engine}, engine.Serves setting →
      (evaluation.run.run engine).1 = result setting)
    (serves : ∀ {setting engine}, engine.Serves setting →
      (evaluation.run.run engine).2.Serves setting) :
    evaluation.Steady := by
  refine ⟨fun serving => ?_, serves⟩
  rw [yields serving]
  exact (yields (Engine.serves_engine _)).symm

theorem run_bind (evaluation : Evaluation α) (next : α → Evaluation β)
    (engine : Engine) :
    (evaluation >>= next).run.run engine =
      match (evaluation.run.run engine).1 with
      | .ok value => (next value).run.run (evaluation.run.run engine).2
      | .error fault => (.error fault, (evaluation.run.run engine).2) := by
  rw [ExceptT.run_bind, StateT.run_bind]
  cases result : evaluation.run.run engine with
  | mk outcome after =>
      cases outcome <;> rfl

section Composition

variable {setting : Setting}

theorem steady_pure (value : α) : (pure value : Evaluation α).Steady :=
  ⟨fun _ => rfl, fun serving => serving⟩

theorem steady_throw (fault : Fault) : (throw fault : Evaluation α).Steady :=
  ⟨fun _ => rfl, fun serving => serving⟩

theorem steady_ofExcept (result : Except Fault α) : (ofExcept result).Steady :=
  ⟨fun _ => rfl, fun serving => serving⟩

theorem steady_bind {evaluation : Evaluation α} {next : α → Evaluation β}
    (steady : evaluation.Steady) (nextSteady : ∀ value, (next value).Steady) :
    (evaluation >>= next).Steady := by
  refine .of_result
    (fun setting => evaluation.outcome setting >>=
      fun value => (next value).outcome setting) ?_ ?_ <;>
    intro setting engine serving
  · rw [run_bind, steady.result serving]
    cases evaluation.outcome setting with
    | ok value => exact (nextSteady value).result (steady.serves serving)
    | error fault => rfl
  · rw [run_bind]
    cases (evaluation.run.run engine).1 with
    | ok value => exact (nextSteady value).serves (steady.serves serving)
    | error fault => exact steady.serves serving

theorem steady_map {evaluation : Evaluation α} (function : α → β)
    (steady : evaluation.Steady) : (function <$> evaluation).Steady := by
  rw [map_eq_pure_bind]
  exact steady_bind steady fun value => steady_pure (function value)

/-- A first result and the list of the others. -/
theorem steady_cons {first : Evaluation α} {others : Evaluation (List α)}
    (firstSteady : first.Steady) (othersSteady : others.Steady) :
    (do return (← first) :: (← others) : Evaluation (List α)).Steady :=
  steady_bind firstSteady fun result =>
    steady_bind othersSteady fun results => steady_pure (result :: results)

theorem steady_mapM {items : List α} {step : α → Evaluation β}
    (steady : ∀ item ∈ items, (step item).Steady) :
    (items.mapM step).Steady := by
  induction items with
  | nil => exact steady_pure []
  | cons item items induction =>
      rw [List.mapM_cons]
      apply steady_cons (steady item List.mem_cons_self)
      exact induction fun other member =>
        steady other (List.mem_cons_of_mem item member)

@[simp] theorem outcome_pure (value : α) :
    (pure value : Evaluation α).outcome setting = .ok value :=
  rfl

@[simp] theorem outcome_throw (fault : Fault) :
    (throw fault : Evaluation α).outcome setting = .error fault :=
  rfl

@[simp] theorem outcome_ofExcept (result : Except Fault α) :
    (ofExcept result).outcome setting = result :=
  rfl

theorem outcome_bind {evaluation : Evaluation α} {next : α → Evaluation β}
    (steady : evaluation.Steady) (nextSteady : ∀ value, (next value).Steady) :
    (evaluation >>= next).outcome setting =
      evaluation.outcome setting >>= fun value =>
        (next value).outcome setting := by
  have serving := Engine.serves_engine setting
  unfold outcome
  rw [run_bind]
  cases result : (evaluation.run.run setting.engine).1 with
  | ok value => exact (nextSteady value).result (steady.serves serving)
  | error fault => rfl

theorem outcome_map {evaluation : Evaluation α} (function : α → β)
    (steady : evaluation.Steady) :
    (function <$> evaluation).outcome setting =
      function <$> evaluation.outcome setting := by
  rw [map_eq_pure_bind,
    outcome_bind steady fun value => steady_pure (function value)]
  rfl

theorem outcome_cons {first : Evaluation α} {others : Evaluation (List α)}
    (firstSteady : first.Steady) (othersSteady : others.Steady) :
    (do return (← first) :: (← others) : Evaluation (List α)).outcome setting =
      (do return (← first.outcome setting) :: (← others.outcome setting)) := by
  have extendSteady (result : α) :
      (do return result :: (← others) : Evaluation (List α)).Steady :=
    steady_bind othersSteady fun results => steady_pure (result :: results)
  rw [outcome_bind firstSteady extendSteady]
  congr 1
  funext result
  rw [outcome_bind othersSteady fun results => steady_pure (result :: results)]
  rfl

theorem outcome_mapM {items : List α} {step : α → Evaluation β}
    (steady : ∀ item ∈ items, (step item).Steady) :
    (items.mapM step).outcome setting =
      items.mapM fun item => (step item).outcome setting := by
  induction items with
  | nil => rfl
  | cons item items induction =>
      have itemsSteady : ∀ other ∈ items, (step other).Steady :=
        fun other member => steady other (List.mem_cons_of_mem item member)
      rw [List.mapM_cons, List.mapM_cons,
        outcome_cons (steady item List.mem_cons_self) (steady_mapM itemsSteady),
        induction itemsSteady]

end Composition

/-- The handler of a name, as the table of a setting has it. -/
def knownHandler (setting : Setting) (name : String) : Except Fault Handler :=
  match setting.handler? name with
  | some handler => .ok handler
  | none => .error (.unknownOperator name)

/-- The compilation of a pattern, with the names that a setting has. -/
def compiledPattern (setting : Setting) (pattern : String) :
    Except Fault Pattern.Compiled :=
  (Pattern.compile setting.names pattern).mapError (.ofRejection pattern)

theorem run_findHandler (name : String) (engine : Engine) :
    (findHandler name).run.run engine =
      (knownHandler engine.setting name,
        { engine with registry := engine.registry.freeze }) := by
  have looked : (findHandler name).run.run engine =
      (match engine.setting.handler? name with
        | some handler => (pure handler : Evaluation Handler)
        | none => throw (Fault.unknownOperator name)).run.run
          { engine with registry := engine.registry.freeze } := rfl
  rw [looked]
  unfold knownHandler
  cases engine.setting.handler? name <;> rfl

theorem run_getPattern (pattern : String) {engine : Engine}
    (sound : engine.patterns.Sound) :
    (getPattern pattern).run.run engine =
      (compiledPattern engine.setting pattern,
        { engine with patterns := (engine.patterns.get pattern).2 }) := by
  have asked : (getPattern pattern).run.run engine =
      ((engine.patterns.get pattern).1.mapError (.ofRejection pattern),
        { engine with patterns := (engine.patterns.get pattern).2 }) := rfl
  rw [asked, sound.get_eq pattern]
  rfl

section Primitives

variable {setting : Setting}

theorem steady_findHandler (name : String) : (findHandler name).Steady := by
  refine .of_result (fun setting => knownHandler setting name) ?_ ?_ <;>
    intro setting engine serving <;> rw [run_findHandler]
  · rw [serving.setting_eq]
  · exact ⟨serving.setting_eq, serving.sound⟩

@[simp] theorem outcome_findHandler (name : String) :
    (findHandler name).outcome setting = knownHandler setting name := by
  rw [outcome, run_findHandler]
  rfl

theorem steady_getPattern (pattern : String) : (getPattern pattern).Steady := by
  refine .of_result (fun setting => compiledPattern setting pattern) ?_ ?_ <;>
    intro setting engine serving <;> rw [run_getPattern pattern serving.sound]
  · rw [serving.setting_eq]
  · refine ⟨?_, serving.sound.get pattern⟩
    rw [← serving.setting_eq, Engine.setting, Pattern.Cache.names_get]
    rfl

@[simp] theorem outcome_getPattern (pattern : String) :
    (getPattern pattern).outcome setting = compiledPattern setting pattern := by
  rw [outcome, run_getPattern pattern (Engine.serves_engine setting).sound]
  rfl

theorem steady_ofPresent (result : Instant → Except Fault α) :
    (do ofExcept (result (← get).present) : Evaluation α).Steady := by
  refine .of_result (fun setting => result setting.present) ?_ ?_ <;>
    intro setting engine serving
  · rw [← serving.setting_eq]
    rfl
  · exact serving

@[simp] theorem outcome_ofPresent (result : Instant → Except Fault α) :
    (do ofExcept (result (← get).present) : Evaluation α).outcome setting =
      result setting.present :=
  rfl

end Primitives

end Evaluation

end Criteria
