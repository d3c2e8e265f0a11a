import Criteria.Proofs.Condition.Exposure
import Criteria.Proofs.Predicate.Fields

/-!
# Unknown operators

A predicate that applies an operator which the table lacks is undetermined,
whatever the document holds and whatever its other conditions say.  There is one
exception: a question for presence about a path that leads nowhere is answered
without a look at the table.
-/

namespace Criteria

namespace Predicate

variable {setting : Setting} {document : Value} {field : String × Value}

theorem fieldOutcome_of_exposed (keepsNames : setting.KeepsNames) {name : String}
    (exposed : Condition.Exposes name field.2) (absent : setting.handler? name = none)
    {value : Value} (found : resolve document field.1 = .found value) :
    ∃ fault, Query.fieldOutcome setting document field = .error fault := by
  rw [Query.fieldOutcome_of_found found, Condition.outcome_matchValue]
  exact Condition.exists_answer_eq_error_iff.mpr
    (exposed.failing keepsNames absent value)

/-- An operator that the table lacks leaves every predicate undetermined that
applies it, unless the condition only asks for the presence of a field that is
not there.  In a table with all known operators the exception cannot arise. -/
theorem evaluate_undetermined_of_unknown_operator {engine : Engine}
    (sound : engine.patterns.Sound) {base : Registry}
    (start : base = .empty ∨ base = .withKnownOperators)
    (extended : base.Extends engine.registry) (document : Value)
    {predicate : Predicate} {field : String × Value}
    (member : field ∈ predicate.query.fields) {name : String}
    (exposed : Condition.Exposes name field.2)
    (absent : engine.registry.contains name = false)
    (looked : base = .withKnownOperators ∨
      (∃ value, resolve document field.1 = .found value) ∨
      ∀ operand, field.2 ≠ .mapping [(.text "$exists", operand)]) :
    ∃ result, ((evaluate document predicate).run engine).1.result = some result ∧
      result.state = .undetermined := by
  have keepsNames := Setting.keepsNames_of_extends start extended
  have undefined : engine.registry.definition? name = none :=
    Registry.contains_eq_false_iff.mp absent
  have noHandler : engine.setting.handler? name = none :=
    congrArg (Option.map Definition.handler) undefined
  refine ⟨predicate.resultIn engine.setting document,
    (evaluate_result ⟨rfl, sound⟩).1, ?_⟩
  cases found : Path.follow (Path.segments field.1) document with
  | some value =>
      have resolved : resolve document field.1 = .found value := by
        rw [resolve, found]
      obtain ⟨fault, failed⟩ :=
        fieldOutcome_of_exposed keepsNames exposed noHandler resolved
      exact state_resultIn_of_fault member failed
  | none =>
      apply state_resultIn_of_missing member
      rw [Query.lacksData_iff]
      refine ⟨found, ?_⟩
      rcases looked with rfl | ⟨value, resolved⟩ | notPresence
      · -- A table with all known operators has the one that asks for presence.
        intro operand asked
        rw [asked] at exposed
        obtain rfl := exposed.name_of_presence
        rw [extended.definition?_name, Registry.definition?_withKnownOperators,
          Operator.ofName?_name] at undefined
        cases undefined
      · rw [resolve, found] at resolved
        cases resolved
      · exact notPresence

theorem evaluate_undetermined_of_unknown_operator_in_negation :
    let known := Registry.withKnownOperators
    let engine := (Setting.known .standard default).engine
    let near := Value.mapping [(.text "$near", .null)]
    let condition := Value.mapping
      [(.text "$not", .mapping [(.text "$or", .list [.null, near])])]
    let predicate : Predicate := ⟨"p", [("a", condition)], by decide⟩
    let document := Value.mapping [(.text "a", .integer 5)]
    engine.patterns.Sound ∧ known.Extends engine.registry ∧
      engine.registry.contains "$near" = false ∧
      Condition.Exposes "$near" condition ∧
      resolve document "a" = .found (.integer 5) ∧
      ∃ result, ((evaluate document predicate).run engine).1.result =
          some result ∧ result.state = .undetermined := by
  intro known engine near condition predicate document
  have sound := (Engine.serves_engine (Setting.known .standard default)).sound
  have absent : engine.registry.contains "$near" = false := by decide
  have exposed : Condition.Exposes "$near" condition :=
    .negated rfl List.mem_cons_self
      (@Condition.Exposes.listed _ _ .disjunction _ _ _ rfl (.inr rfl) List.mem_cons_self rfl
        (List.mem_cons_of_mem _ List.mem_cons_self)
        (.own rfl List.mem_cons_self))
  have resolved : resolve document "a" = .found (.integer 5) := rfl
  exact ⟨sound, .base, absent, exposed, resolved,
    evaluate_undetermined_of_unknown_operator sound (.inr rfl) .base document
      List.mem_cons_self exposed absent (.inr (.inl ⟨_, resolved⟩))⟩

/-- In a table without any operators, a question for presence has an answer
although its operator is unknown. -/
theorem evaluate_matched_of_unknown_presence :
    let engine := Setting.engine ⟨Registry.empty.definitions, .standard, default⟩
    let condition := Value.mapping [(.text "$exists", .boolean false)]
    let predicate : Predicate := ⟨"p", [("a", condition)], by decide⟩
    Registry.empty.Extends engine.registry ∧
      engine.registry.contains "$exists" = false ∧
      Condition.Exposes "$exists" condition ∧
      ((evaluate (.mapping []) predicate).run engine).1.result =
        some ⟨"p", .matched, [], none⟩ := by
  exact ⟨.base, rfl, .own rfl List.mem_cons_self, by decide +kernel⟩

end Predicate

end Criteria
