import Criteria.Proofs.Condition.Decision
import Criteria.Proofs.Operator.Congruence
import Criteria.Proofs.Value.Reordering

/-!
# Operators on reordered operands

What an operator that takes no conditions decides does not depend on the order
in which the entries of mappings in its operand are written, nor, if it asks for
membership, on the order of the items of its operand.
-/

namespace Criteria

namespace Value

variable {value operand changed : Value}

section Comparison

/-- Values with parts have no order with any value. -/
theorem unordered_of_structured (structured : operand.Structured) (value : Value) :
    value.orderable operand = false ∧ value.lessOrEqual operand = false ∧
      operand.lessOrEqual value = false := by
  cases operand with
  | list items | tuple items | mapping entries => cases value <;> exact ⟨rfl, rfl, rfl⟩
  | _ => exact structured.elim

theorem Reordered.order_eq (reordered : operand.Reordered changed) (value : Value) :
    value.orderable operand = value.orderable changed ∧
      value.lessOrEqual operand = value.lessOrEqual changed ∧
      operand.lessOrEqual value = changed.lessOrEqual value := by
  rcases reordered.eq_or_structured with rfl | ⟨structured, changedStructured⟩
  · exact ⟨rfl, rfl, rfl⟩
  · obtain ⟨unordered, notLess, notGreater⟩ := unordered_of_structured structured value
    obtain ⟨otherUnordered, otherNotLess, otherNotGreater⟩ :=
      unordered_of_structured changedStructured value
    rw [unordered, notLess, notGreater, otherUnordered, otherNotLess, otherNotGreater]
    exact ⟨rfl, rfl, rfl⟩

theorem Reordered.isBetween_eq (reordered : operand.Reordered changed) (value : Value) :
    value.isBetween operand = value.isBetween changed := by
  unfold isBetween
  rcases reordered.items? with ⟨none, otherNone⟩ | ⟨items, others, held, otherHeld, each⟩
  · rw [none, otherNone]
  · rw [held, otherHeld]
    match each with
    | .nil => rfl
    | .cons _ .nil => rfl
    | .cons _ (.cons _ (.cons _ _)) => rfl
    | .cons low (.cons high .nil) =>
        obtain ⟨lowOrderable, -, lowLess⟩ := low.order_eq value
        obtain ⟨highOrderable, highGreater, -⟩ := high.order_eq value
        dsimp only
        rw [lowOrderable, highOrderable, lowLess, highGreater]

end Comparison

section Collection

theorem Reordered.containsPart_eq (reordered : operand.Reordered changed)
    (wellFormed : operand.WellFormed) (value : Value) :
    value.containsPart operand = value.containsPart changed := by
  unfold containsPart
  cases value.items? with
  | some items => simp only [reordered.equal_right wellFormed]
  | none =>
      rcases reordered.eq_or_structured with rfl | ⟨structured, changedStructured⟩
      · rfl
      · dsimp only
        split
        · exact structured.elim
        · split
          · exact changedStructured.elim
          · rfl

theorem memberOf_of_reordered {options others : List Value}
    (each : List.Forall₂ Reordered options others)
    (wellFormed : ∀ option ∈ options, option.WellFormed) (value : Value) :
    value.memberOf options = value.memberOf others :=
  any_congr each fun option member _ reordered =>
    reordered.equal_right (wellFormed option member) value

theorem all_memberOf_of_reordered {required others : List Value}
    (each : List.Forall₂ Reordered required others) (items : List Value) :
    (required.all fun item => item.memberOf items) =
      others.all fun item => item.memberOf items := by
  rw [Bool.eq_iff_iff, List.all_eq_true, List.all_eq_true]
  refine forall_mem_congr each fun item _ other reordered => ?_
  simp only [memberOf, reordered.equal_left]

end Collection

end Value

namespace Condition

open Evaluation

variable {setting : Setting} {operand changed : Value}

/-- An operand with parts is refused or not matched by these operators. -/
theorem decision_of_structured {operator : Operator}
    (member : operator ∈ [.greater, .greaterOrEqual, .less, .lessOrEqual, .size,
      .present, .kind, .regex, .dateBefore, .dateAfter, .startsWith, .endsWith])
    (structured : operand.Structured) (value : Value) :
    (applyPlain operator value operand).decision setting =
      (applyPlain operator value (.mapping [])).decision setting := by
  simp only [List.mem_cons, List.not_mem_nil, or_false] at member
  cases operand with
  | list items | tuple items | mapping entries =>
      rcases member with
        rfl | rfl | rfl | rfl | rfl | rfl | rfl | rfl | rfl | rfl | rfl | rfl <;>
        first | rfl | (cases value <;> rfl)
  | _ => exact structured.elim

theorem decision_membership {operator : Operator}
    (member : operator ∈ [.isIn, .isNotIn, .containsAll])
    {options middle others : List Value} (held : operand.items? = some options)
    (changedHeld : changed.items? = some others)
    (each : List.Forall₂ Value.Reordered options middle) (permuted : middle.Perm others)
    (wellFormed : operand.WellFormed) (value : Value) :
    (applyPlain operator value operand).decision setting =
      (applyPlain operator value changed).decision setting := by
  have optionsWellFormed : ∀ option ∈ options, option.WellFormed :=
    fun option member => Value.wellFormed_of_mem_items wellFormed held member
  have sameMembers : value.memberOf options = value.memberOf others :=
    (Value.memberOf_of_reordered each optionsWellFormed value).trans permuted.any_eq
  have sameRequired (items : List Value) :
      (options.all fun item => item.memberOf items) =
        others.all fun item => item.memberOf items :=
    (Value.all_memberOf_of_reordered each items).trans permuted.all_eq
  simp only [List.mem_cons, List.not_mem_nil, or_false] at member
  unfold decision
  rcases member with rfl | rfl | rfl <;>
    simp only [applyPlain, outcome_ofExcept, Value.isIn, Value.isNotIn,
      Value.containsAll, Value.requireItems, held, changedHeld]
  · exact congrArg some sameMembers
  · exact congrArg (fun result => some !result) sameMembers
  · cases value.items? with
    | none => rfl
    | some items => exact congrArg some (sameRequired items)

/-- The operators outside the structural and logical families decide the same on
a reordered operand. -/
theorem decision_applyPlain_of_reordered (operator : Operator)
    (reordered : operand.Reordered changed) (wellFormed : operand.WellFormed)
    (value : Value) :
    (applyPlain operator value operand).decision setting =
      (applyPlain operator value changed).decision setting := by
  cases operator with
  | equal => exact congrArg some (reordered.equal_right wellFormed value)
  | notEqual =>
      exact congrArg (fun result => some !result) (reordered.equal_right wellFormed value)
  | between => exact congrArg some (reordered.isBetween_eq value)
  | contains => exact congrArg some (reordered.containsPart_eq wellFormed value)
  | isIn | isNotIn | containsAll =>
      rcases reordered.items? with ⟨none, otherNone⟩ | ⟨options, others, held, otherHeld, each⟩
      · simp only [applyPlain, decision, outcome_ofExcept, Value.isIn, Value.isNotIn,
          Value.containsAll, Value.requireItems, none, otherNone]
        rfl
      · exact decision_membership (by decide) held otherHeld each (.refl others)
          wellFormed value
  | element | conjunction | disjunction | negation => rfl
  | _ =>
      rcases reordered.eq_or_structured with rfl | ⟨structured, changedStructured⟩
      · rfl
      · rw [decision_of_structured (by decide) structured,
          decision_of_structured (by decide) changedStructured]

end Condition

end Criteria
