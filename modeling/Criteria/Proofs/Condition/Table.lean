import Criteria.Proofs.Engine.Steadiness

/-!
# Tables of operators

The full table has every known operator under its name and nothing else.  A table
to which other names are added keeps what it has under the names of known
operators, so that none of these ever stands for something else.
-/

namespace Criteria

namespace Operator

theorem ofName?_name (operator : Operator) : ofName? operator.name = some operator := by
  cases operator <;> rfl

theorem name_of_ofName? {name : String} {operator : Operator}
    (named : ofName? name = some operator) : operator.name = name := by
  simpa using List.find?_some named

theorem name_injective {operator other : Operator} (same : operator.name = other.name) :
    operator = other := by
  have named := ofName?_name operator
  rw [same, ofName?_name] at named
  exact (Option.some.inj named).symm

end Operator

namespace Registry

theorem contains_eq_false_iff {registry : Registry} {name : String} :
    registry.contains name = false ↔ registry.definition? name = none := by
  simp [contains, names, definition?]

theorem definition?_withKnownOperators (name : String) :
    withKnownOperators.definition? name =
      (Operator.ofName? name).map fun operator =>
        ⟨operator.name, operator.family, .known operator⟩ := by
  rw [definition?, withKnownOperators, List.find?_map]
  rfl

theorem find?_define_of_ne {definition : Definition} {name : String}
    (different : definition.name ≠ name) (definitions : List Definition) :
    (define definition definitions).find? (fun other => other.name = name) =
      definitions.find? fun other => other.name = name := by
  induction definitions with
  | nil => simp [define, different]
  | cons first rest induction =>
      rw [define]
      by_cases same : first.name = definition.name
      · simp [same, different]
      · rw [if_neg same, List.find?_cons, List.find?_cons, induction]

/-- Registration adds a definition under its name and leaves the others alone. -/
theorem register_eq_ok {registry registered : Registry} {name : String}
    {handler : Option Handler} {replace : Bool}
    (accepted : registry.register name handler replace = .ok registered) :
    ∃ run, handler = some run ∧
      registered = { registry with
        definitions := define ⟨name, .custom, run⟩ registry.definitions } := by
  unfold register at accepted
  split at accepted
  · cases accepted
  · split at accepted
    · cases accepted
    · split at accepted
      · cases accepted
      · split at accepted
        · cases accepted
        · cases accepted
          exact ⟨_, rfl, rfl⟩

/-- The registries that come from a base by registering names that no known
operator has, and by use, which closes the table. -/
inductive Extends (base : Registry) : Registry → Prop where
  | base : Extends base base
  | register {registry registered : Registry} {name : String}
      {handler : Option Handler} {replace : Bool} :
      Extends base registry → Operator.ofName? name = none →
      registry.register name handler replace = .ok registered →
      Extends base registered
  | freeze {registry : Registry} :
      Extends base registry → Extends base registry.freeze

theorem Extends.definition?_name {base registry : Registry}
    (extended : base.Extends registry) (operator : Operator) :
    registry.definition? operator.name = base.definition? operator.name := by
  induction extended with
  | base => rfl
  | freeze extended induction => exact induction
  | register extended new accepted induction =>
      obtain ⟨run, -, rfl⟩ := register_eq_ok accepted
      rw [← induction]
      refine find?_define_of_ne (fun same => ?_) _
      dsimp only at same
      rw [same, Operator.ofName?_name] at new
      cases new

end Registry

namespace Setting

variable {setting : Setting}

theorem handler?_known (names : CharacterNames) (present : Instant) (name : String) :
    (known names present).handler? name = (Operator.ofName? name).map .known := by
  have found := Registry.definition?_withKnownOperators name
  rw [Registry.definition?] at found
  rw [handler?, known, found, Option.map_map]
  rfl

theorem handler?_known_name (names : CharacterNames) (present : Instant) (operator : Operator) :
    (known names present).handler? operator.name = some (.known operator) := by
  rw [handler?_known, Operator.ofName?_name]
  rfl

/-- The name of a known operator stands for this operator, if for anything. -/
def KeepsNames (setting : Setting) : Prop :=
  ∀ operator handler, setting.handler? operator.name = some handler →
    handler = .known operator

theorem keepsNames_of_extends {base : Registry} {engine : Engine}
    (start : base = .empty ∨ base = .withKnownOperators)
    (extended : base.Extends engine.registry) : engine.setting.KeepsNames := by
  intro operator handler found
  have kept : engine.setting.handler? operator.name =
      (base.definition? operator.name).map Definition.handler :=
    congrArg (Option.map Definition.handler) (extended.definition?_name operator)
  rw [kept] at found
  rcases start with rfl | rfl
  · cases found
  · rw [Registry.definition?_withKnownOperators, Operator.ofName?_name] at found
    cases found
    rfl

end Setting

end Criteria
