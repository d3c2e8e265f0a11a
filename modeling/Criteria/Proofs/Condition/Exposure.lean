import Criteria.Proofs.Condition.Answers
import Criteria.Proofs.Condition.Table

/-!
# Exposed operators

The operators that a condition applies to its value whatever the value is: its
own, and those that a conjunction, a disjunction or a negation among them hands
the value on to.  If the table lacks one of them, the condition ends in a fault.
-/

namespace Criteria

namespace Condition

/-- The condition applies an operator of this name to every value. -/
inductive Exposes (name : String) : Value → Prop where
  | own {entries : List (Key × Value)} {operand : Value} :
      shapeOfEntries entries = .operators → (.text name, operand) ∈ entries →
      Exposes name (.mapping entries)
  | listed {entries : List (Key × Value)} {operator : Operator} {operand condition : Value}
      {conditions : List Value} :
      shapeOfEntries entries = .operators →
      operator = .conjunction ∨ operator = .disjunction →
      (.text operator.name, operand) ∈ entries →
      operand.items? = some conditions → condition ∈ conditions →
      Exposes name condition → Exposes name (.mapping entries)
  | negated {entries : List (Key × Value)} {operand : Value} :
      shapeOfEntries entries = .operators →
      (.text Operator.negation.name, operand) ∈ entries →
      Exposes name operand → Exposes name (.mapping entries)

theorem Exposes.exists_cons {name : String} {condition : Value}
    (exposed : Exposes name condition) :
    ∃ entry entries, condition = .mapping (entry :: entries) := by
  have notEmpty {entry : Key × Value} {entries : List (Key × Value)}
      (listed : entry ∈ entries) :
      ∃ first rest, Value.mapping entries = .mapping (first :: rest) := by
    obtain ⟨first, rest, rfl⟩ := List.exists_cons_of_ne_nil (List.ne_nil_of_mem listed)
    exact ⟨first, rest, rfl⟩
  cases exposed with
  | own operators listed => exact notEmpty listed
  | listed operators either listed held member exposed => exact notEmpty listed
  | negated operators listed exposed => exact notEmpty listed

/-- A question for presence exposes nothing but its own operator. -/
theorem Exposes.name_of_presence {name : String} {operand : Value}
    (exposed : Exposes name (.mapping [(.text Operator.present.name, operand)])) :
    name = Operator.present.name := by
  have same {other : String} {value : Value}
      (listed : (.text other, value) ∈ [(Key.text Operator.present.name, operand)]) :
      other = Operator.present.name := by
    cases List.mem_singleton.mp listed
    rfl
  cases exposed with
  | own operators listed => exact same listed
  | listed operators either listed held member exposed =>
      cases Operator.name_injective (same listed)
      rcases either with either | either <;> cases either
  | negated operators listed exposed =>
      cases Operator.name_injective (same listed)

section Reached

variable {setting : Setting} {value : Value} {entries : List (Key × Value)}

theorem mem_reached_of_clause (operators : shapeOfEntries entries = .operators)
    {name : String} {operand : Value} (listed : (.text name, operand) ∈ entries) :
    .operator name value operand ∈ reached setting value (.mapping entries) := by
  rw [reached, operators, reachedClauses_eq_flatMap]
  exact List.mem_cons_of_mem _
    (List.mem_flatMap.mpr ⟨_, listed, List.mem_cons_self⟩)

theorem mem_reached_of_nested (operators : shapeOfEntries entries = .operators)
    {name : String} {operand : Value} (listed : (.text name, operand) ∈ entries)
    {handler : Handler} (found : setting.handler? name = some handler)
    {clause : Clause} (nested : clause ∈ nestedClauses setting value operand handler) :
    clause ∈ reached setting value (.mapping entries) := by
  rw [reached, operators, reachedClauses_eq_flatMap]
  refine List.mem_cons_of_mem _ (List.mem_flatMap.mpr ⟨_, listed, ?_⟩)
  have label : Key.label (.text name) = name := rfl
  rw [label, found]
  exact List.mem_cons_of_mem _ nested

/-- A clause of an operator that the table lacks fails, whatever its operand. -/
theorem failing_of_absent (operators : shapeOfEntries entries = .operators)
    {name : String} {operand : Value} (listed : (.text name, operand) ∈ entries)
    (absent : setting.handler? name = none) :
    ∃ clause ∈ reached setting value (.mapping entries),
      setting.fault? clause ≠ none := by
  refine ⟨_, mem_reached_of_clause operators listed, ?_⟩
  rw [Setting.fault?, absent]
  exact Option.some_ne_none _

/-- What is reached through an operator is reached through its clause, unless
the operator itself is unknown, in which case its clause fails. -/
theorem failing_of_nested (keepsNames : setting.KeepsNames)
    (operators : shapeOfEntries entries = .operators) {operator : Operator}
    {operand : Value} (listed : (.text operator.name, operand) ∈ entries)
    {clause : Clause}
    (nested : clause ∈ nestedClauses setting value operand (.known operator))
    (failing : setting.fault? clause ≠ none) :
    ∃ clause ∈ reached setting value (.mapping entries),
      setting.fault? clause ≠ none := by
  cases found : setting.handler? operator.name with
  | none => exact failing_of_absent operators listed found
  | some handler =>
      obtain rfl := keepsNames operator handler found
      exact ⟨clause, mem_reached_of_nested operators listed found nested, failing⟩

theorem Exposes.failing {name : String} {condition : Value}
    (exposed : Exposes name condition) (keepsNames : setting.KeepsNames)
    (absent : setting.handler? name = none) (value : Value) :
    ∃ clause ∈ reached setting value condition, setting.fault? clause ≠ none := by
  induction exposed with
  | own operators listed => exact failing_of_absent operators listed absent
  | @listed entries operator operand condition conditions operators either listed
      held member exposed induction =>
      obtain ⟨clause, reachedIn, failing⟩ := induction
      have nested : clause ∈ nestedClauses setting value operand (.known operator) := by
        have each : clause ∈ reachedEach setting value conditions := by
          rw [reachedEach_eq_flatMap]
          exact List.mem_flatMap.mpr ⟨condition, member, reachedIn⟩
        rcases either with rfl | rfl <;> simpa only [nestedClauses, held] using each
      exact failing_of_nested keepsNames operators listed nested failing
  | @negated entries operand operators listed exposed induction =>
      obtain ⟨clause, reachedIn, failing⟩ := induction
      have nested : clause ∈ nestedClauses setting value operand (.known .negation) := by
        obtain ⟨entry, rest, rfl⟩ := exposed.exists_cons
        exact reachedIn
      exact failing_of_nested keepsNames operators listed nested failing

end Reached

end Condition

end Criteria
