import Criteria.Condition.Shape
import Criteria.Operator.Basic
import Criteria.Proofs.Value.Reordering

/-!
# Rewritten conditions

A condition may be written in another order: the entries of its mappings, the
conditions that a conjunction or a disjunction lists, and the options of a
membership.  Its shape stays the same, and so does the question for presence, if
it is one.
-/

namespace Criteria

namespace Condition

mutual

/-- A condition in another order of writing. -/
inductive Rewritten : Value → Value → Prop where
  | data {condition changed : Value} :
      condition.Reordered changed → Rewritten condition changed
  | operators {clauses middle others : List (Key × Value)} :
      shapeOfEntries clauses = .operators →
      List.Forall₂ ClauseRewritten clauses middle → middle.Perm others →
      Rewritten (.mapping clauses) (.mapping others)

/-- A clause whose operand is written in another order. -/
inductive ClauseRewritten : Key × Value → Key × Value → Prop where
  | clause (key : Key) {operand changed : Value} :
      OperandRewritten (Operator.ofName? key.label) operand changed →
      ClauseRewritten (key, operand) (key, changed)

/-- An operand in another order of writing, by the operator that it is for.  An
element query that is no map of operators sets conditions for fields. -/
inductive OperandRewritten : Option Operator → Value → Value → Prop where
  | data {operator? : Option Operator} {operand changed : Value} :
      operand.Reordered changed → OperandRewritten operator? operand changed
  | options {operator : Operator} {operand changed : Value}
      {options middle others : List Value} :
      operator ∈ [.isIn, .isNotIn, .containsAll] → operand.items? = some options →
      List.Forall₂ Value.Reordered options middle → middle.Perm others →
      changed.items? = some others → OperandRewritten (some operator) operand changed
  | conditions {operator : Operator} {operand changed : Value}
      {conditions middle others : List Value} :
      operator ∈ [.conjunction, .disjunction] → operand.items? = some conditions →
      List.Forall₂ Rewritten conditions middle → middle.Perm others →
      changed.items? = some others → OperandRewritten (some operator) operand changed
  | condition {operator : Operator} {operand changed : Value} :
      operator ∈ [.negation, .element] → Rewritten operand changed →
      OperandRewritten (some operator) operand changed
  | query {fields middle others : List (Key × Value)} :
      shapeOfEntries fields = .plain → List.Forall₂ FieldRewritten fields middle →
      middle.Perm others →
      OperandRewritten (some .element) (.mapping fields) (.mapping others)

/-- A field of a query whose condition is written in another order. -/
inductive FieldRewritten : Key × Value → Key × Value → Prop where
  | field (key : Key) {condition changed : Value} :
      Rewritten condition changed → FieldRewritten (key, condition) (key, changed)

end

section Relations

theorem clauseRewritten_of_reordered {entry other : Key × Value}
    (reordered : Value.EntryReordered entry other) : ClauseRewritten entry other := by
  cases reordered with
  | entry key valueReordered => exact .clause key (.data valueReordered)

theorem fieldRewritten_of_reordered {entry other : Key × Value}
    (reordered : Value.EntryReordered entry other) : FieldRewritten entry other := by
  cases reordered with
  | entry key valueReordered => exact .field key (.data valueReordered)

theorem ClauseRewritten.key_eq {clause other : Key × Value}
    (rewritten : ClauseRewritten clause other) : clause.1 = other.1 := by
  cases rewritten with
  | clause key operandRewritten => rfl

theorem FieldRewritten.key_eq {field other : Key × Value}
    (rewritten : FieldRewritten field other) : field.1 = other.1 := by
  cases rewritten with
  | field key conditionRewritten => rfl

variable {operand changed : Value}

/-- The conditions of a conjunction or a disjunction are rewritten one by one and
then permuted. -/
theorem OperandRewritten.items? {operator : Operator}
    (rewritten : OperandRewritten (some operator) operand changed)
    (logical : operator ∈ [.conjunction, .disjunction]) :
    (operand.items? = none ∧ changed.items? = none) ∨
      ∃ conditions middle others, operand.items? = some conditions ∧
        changed.items? = some others ∧ List.Forall₂ Rewritten conditions middle ∧
        middle.Perm others := by
  simp only [List.mem_cons, List.not_mem_nil, or_false] at logical
  cases rewritten with
  | data reordered =>
      rcases reordered.items? with absent | ⟨items, others, held, otherHeld, each⟩
      · exact .inl absent
      · exact .inr ⟨items, others, others, held, otherHeld,
          each.imp fun _ _ itemReordered => .data itemReordered, .refl others⟩
  | conditions member held each permuted otherHeld =>
      exact .inr ⟨_, _, _, held, otherHeld, each, permuted⟩
  | options member => rcases logical with rfl | rfl <;> simp at member
  | condition member => rcases logical with rfl | rfl <;> simp at member
  | query => rcases logical with logical | logical <;> cases logical

theorem OperandRewritten.negated
    (rewritten : OperandRewritten (some .negation) operand changed) :
    Rewritten operand changed := by
  cases rewritten with
  | data reordered => exact .data reordered
  | condition member rewritten => exact rewritten
  | options member | conditions member => simp at member

end Relations

section Mappings

/-- The entries of a mapping under the same keys, rewritten as clauses or as
fields according to the shape that the mapping has. -/
structure EntriesRewritten (entries middle : List (Key × Value)) : Prop where
  keys_eq : entries.map Prod.fst = middle.map Prod.fst
  clauses : shapeOfEntries entries = .operators →
    List.Forall₂ ClauseRewritten entries middle
  fields : shapeOfEntries entries = .plain →
    List.Forall₂ FieldRewritten entries middle

variable {operand changed : Value} {entries middle others : List (Key × Value)}

theorem EntriesRewritten.of_reordered
    (each : List.Forall₂ Value.EntryReordered entries middle) :
    EntriesRewritten entries middle where
  keys_eq := Value.map_eq_of_forall₂ each Value.EntryReordered.key_eq
  clauses _ := each.imp fun _ _ => clauseRewritten_of_reordered
  fields _ := each.imp fun _ _ => fieldRewritten_of_reordered

theorem EntriesRewritten.of_clauses (shape : shapeOfEntries entries = .operators)
    (each : List.Forall₂ ClauseRewritten entries middle) :
    EntriesRewritten entries middle where
  keys_eq := Value.map_eq_of_forall₂ each ClauseRewritten.key_eq
  clauses _ := each
  fields otherShape := by
    rw [shape] at otherShape
    cases otherShape

theorem EntriesRewritten.of_fields (shape : shapeOfEntries entries = .plain)
    (each : List.Forall₂ FieldRewritten entries middle) :
    EntriesRewritten entries middle where
  keys_eq := Value.map_eq_of_forall₂ each FieldRewritten.key_eq
  clauses otherShape := by
    rw [shape] at otherShape
    cases otherShape
  fields _ := each

theorem EntriesRewritten.length_eq (rewritten : EntriesRewritten entries middle) :
    entries.length = middle.length := by
  rw [← List.length_map Prod.fst, rewritten.keys_eq, List.length_map]

/-- The shape of a mapping is that of its keys, in any order. -/
theorem EntriesRewritten.shape_eq (rewritten : EntriesRewritten entries middle)
    (permuted : middle.Perm others) : shapeOfEntries entries = shapeOfEntries others := by
  have ofKeys (entries : List (Key × Value)) : shapeOfEntries entries =
      if !(entries.map Prod.fst).any isOperatorKey then .plain
      else if (entries.map Prod.fst).all isOperatorKey then .operators else .mixed := by
    rw [List.any_map, List.all_map]
    rfl
  rw [ofKeys, ofKeys, rewritten.keys_eq, (permuted.map Prod.fst).any_eq,
    (permuted.map Prod.fst).all_eq]

/-- Both values are mappings, of rewritten and then permuted entries, or neither
value is one. -/
inductive MappingsRewritten : Value → Value → Prop where
  | neither {operand changed : Value} : operand.entries? = none →
      changed.entries? = none → MappingsRewritten operand changed
  | both {entries middle others : List (Key × Value)} :
      EntriesRewritten entries middle → middle.Perm others →
      MappingsRewritten (.mapping entries) (.mapping others)

theorem mappingsRewritten_of_reordered (reordered : operand.Reordered changed) :
    MappingsRewritten operand changed := by
  cases reordered with
  | list each | tuple each => exact .neither rfl rfl
  | mapping each permuted => exact .both (.of_reordered each) permuted
  | same =>
      cases operand with
      | mapping entries =>
          have unchanged : List.Forall₂ Value.EntryReordered entries entries :=
            List.forall₂_same.mpr fun entry _ => .entry entry.1 (.same entry.2)
          exact .both (.of_reordered unchanged) (.refl entries)
      | _ => exact .neither rfl rfl

theorem Rewritten.mappings (rewritten : Rewritten operand changed) :
    MappingsRewritten operand changed := by
  cases rewritten with
  | data reordered => exact mappingsRewritten_of_reordered reordered
  | operators shape each permuted => exact .both (.of_clauses shape each) permuted

theorem OperandRewritten.mappings
    (rewritten : OperandRewritten (some .element) operand changed) :
    MappingsRewritten operand changed := by
  cases rewritten with
  | data reordered => exact mappingsRewritten_of_reordered reordered
  | condition member rewritten => exact rewritten.mappings
  | query shape each permuted => exact .both (.of_fields shape each) permuted
  | options member | conditions member => simp at member

end Mappings

section Presence

/-- A condition of one clause asks for presence or not, whatever its operand. -/
theorem presence?_singleton (key : Key) :
    (key = .text Operator.present.name ∧
      ∀ operand, presence? (.mapping [(key, operand)]) = some operand) ∨
      ∀ operand, presence? (.mapping [(key, operand)]) = none := by
  cases key with
  | text name =>
      by_cases asked : name = Operator.present.name
      · subst asked
        exact .inl ⟨rfl, fun operand => rfl⟩
      · exact .inr fun operand => if_neg asked
  | _ => exact .inr fun operand => rfl

theorem presence?_of_two (first second : Key × Value) (rest : List (Key × Value)) :
    presence? (.mapping (first :: second :: rest)) = none := by
  obtain ⟨key, operand⟩ := first
  cases key <;> rfl

/-- The operand of a question for presence is data. -/
theorem ClauseRewritten.of_presence {operand changed : Value}
    (rewritten : ClauseRewritten (.text Operator.present.name, operand)
      (.text Operator.present.name, changed)) : operand.Reordered changed := by
  cases rewritten with
  | clause key operandRewritten =>
      have forPresence : OperandRewritten (some .present) operand changed :=
        operandRewritten
      cases forPresence with
      | data reordered => exact reordered
      | options member | conditions member | condition member => simp at member

/-- Permuted clauses ask for presence before and after, or neither time. -/
theorem presence?_of_clauses {clauses middle others : List (Key × Value)}
    (each : List.Forall₂ ClauseRewritten clauses middle)
    (permuted : middle.Perm others) :
    (presence? (.mapping clauses) = none ∧ presence? (.mapping others) = none) ∨
      ∃ operand changed, presence? (.mapping clauses) = some operand ∧
        presence? (.mapping others) = some changed ∧ operand.Reordered changed := by
  cases each with
  | nil =>
      rw [List.nil_perm.mp permuted]
      exact .inl ⟨rfl, rfl⟩
  | @cons clause other rest otherRest head tail =>
      cases tail with
      | nil =>
          rw [List.perm_singleton.mp permuted.symm]
          obtain ⟨key, operand⟩ := clause
          obtain ⟨otherKey, changed⟩ := other
          obtain rfl : key = otherKey := head.key_eq
          rcases presence?_singleton key with ⟨rfl, asked⟩ | notAsked
          · exact .inr ⟨operand, changed, asked operand, asked changed, head.of_presence⟩
          · exact .inl ⟨notAsked operand, notAsked changed⟩
      | cons second tail =>
          have lengths := permuted.length_eq
          rcases others with _ | ⟨first, _ | ⟨later, others⟩⟩
          · cases lengths
          · cases lengths
          · exact .inl ⟨presence?_of_two _ _ _, presence?_of_two _ _ _⟩

theorem Rewritten.presence? {condition changed : Value}
    (rewritten : Rewritten condition changed) :
    (presence? condition = none ∧ presence? changed = none) ∨
      ∃ operand other, presence? condition = some operand ∧
        presence? changed = some other ∧ operand.Reordered other := by
  cases rewritten with
  | operators shape each permuted => exact presence?_of_clauses each permuted
  | data reordered =>
      cases reordered with
      | list each | tuple each => exact .inl ⟨rfl, rfl⟩
      | mapping each permuted =>
          exact presence?_of_clauses
            (each.imp fun _ _ => clauseRewritten_of_reordered) permuted
      | same =>
          cases asked : Condition.presence? condition with
          | none => exact .inl ⟨rfl, rfl⟩
          | some operand => exact .inr ⟨operand, operand, rfl, rfl, .same operand⟩

end Presence

end Condition

end Criteria
