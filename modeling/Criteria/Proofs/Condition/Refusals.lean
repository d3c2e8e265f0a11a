import Criteria.Proofs.Condition.Accountability

/-!
# Refusals of conditions

An operator that takes no conditions fails by its own rules alone.  The others
fail where a clause within them does, and an element query also if it is no
query.
-/

namespace Criteria

namespace Condition

section Apply

variable {setting : Setting}

theorem apply_eq (name : String) (value operand : Value) :
    apply name value operand =
      allOf <$> matchClauses value [(.text name, operand)] := by
  rw [map_eq_pure_bind]
  rfl

theorem steady_apply (name : String) (value operand : Value) :
    (apply name value operand).Steady := by
  rw [apply_eq]
  exact Evaluation.steady_map _ (steady_matchClauses value _)

/-- Applying an operator by name is what its handler makes of value and operand. -/
theorem outcome_apply {name : String} {handler : Handler}
    (found : setting.handler? name = some handler) (value operand : Value) :
    (apply name value operand).outcome setting =
      (applyHandler value operand handler).outcome setting := by
  rw [apply_eq, Evaluation.outcome_map _ (steady_matchClauses value _),
    outcome_matchClauses_single, clauseOutcome]
  simp only [Key.label, Evaluation.knownHandler, found]
  rfl

theorem outcome_applyElement_of_query (value : Value) {entries : List (Key × Value)}
    (notEmpty : entries ≠ []) (notMixed : shapeOfEntries entries ≠ .mixed) :
    (applyHandler value (.mapping entries) (.known .element)).outcome setting =
      answer setting.fault?
        (nestedClauses setting value (.mapping entries) (.known .element))
        (handlerHolds setting value (.mapping entries) (.known .element)) := by
  obtain ⟨entry, rest, rfl⟩ := List.exists_cons_of_ne_nil notEmpty
  rw [outcome_applyHandler]
  simp only [ownFault?, if_neg notMixed, unlessFault_none]

end Apply

end Condition

end Criteria
