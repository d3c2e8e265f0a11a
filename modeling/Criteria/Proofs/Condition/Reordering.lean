import Criteria.Proofs.Condition.Congruence
import Criteria.Proofs.Condition.Rewriting
import Criteria.Proofs.Condition.Table
import Criteria.Proofs.Operator.Reordering

/-!
# Decisions of rewritten conditions

What a condition decides does not depend on the order in which it is written.
Each of its parts is decided whatever the others decide, so that the order shows
in nothing but the choice of a fault among several.
-/

namespace Criteria

namespace Condition

section Decisions

open Evaluation

theorem flag_of_reordered {operand changed : Value}
    (reordered : operand.Reordered changed) :
    (flag operand).toOption = (flag changed).toOption := by
  rcases reordered.eq_or_structured with rfl | ⟨structured, changedStructured⟩
  · rfl
  · have refused {operand : Value} (structured : operand.Structured) :
        (flag operand).toOption = none := by
      cases operand with
      | list items | tuple items | mapping entries => rfl
      | _ => exact structured.elim
    rw [refused structured, refused changedStructured]

variable {names : CharacterNames} {present : Instant}

/-- Each list of parts decides the same when it is written in another order. -/
def unmoved (names : CharacterNames) (present : Instant) : Motive where
  condition condition := ∀ changed, Rewritten condition changed →
    condition.WellFormed → ∀ value,
    (matchValue value condition).decision (.known names present) =
      (matchValue value changed).decision (.known names present)
  clauses clauses := ∀ others, List.Forall₂ ClauseRewritten clauses others →
    Value.EntriesWellFormed clauses → ∀ value,
    (matchClauses value clauses).decision (.known names present) =
      (matchClauses value others).decision (.known names present)
  each conditions := ∀ others, List.Forall₂ Rewritten conditions others →
    Value.AllWellFormed conditions → ∀ value,
    (matchEach value conditions).decision (.known names present) =
      (matchEach value others).decision (.known names present)
  fields fields := ∀ others, List.Forall₂ FieldRewritten fields others →
    Value.EntriesWellFormed fields → ∀ document,
    (matchFields document fields).decision (.known names present) =
      (matchFields document others).decision (.known names present)

variable {setting : Setting}

theorem decision_matchClauses_perm {clauses others : List (Key × Value)}
    (permuted : clauses.Perm others) (value : Value) :
    allOf <$> (matchClauses value clauses).decision setting =
      allOf <$> (matchClauses value others).decision setting := by
  rw [decision_matchClauses, decision_matchClauses]
  exact map_mapM_perm orderFree_allOf permuted _

theorem decision_matchEach_perm {combine : List Bool → Bool}
    (orderFree : OrderFree combine) {conditions others : List Value}
    (permuted : conditions.Perm others) (value : Value) :
    combine <$> (matchEach value conditions).decision setting =
      combine <$> (matchEach value others).decision setting := by
  rw [decision_matchEach, decision_matchEach]
  exact map_mapM_perm orderFree permuted _

theorem decision_matchFields_perm {fields others : List (Key × Value)}
    (permuted : fields.Perm others) (document : Value) :
    allOf <$> (matchFields document fields).decision setting =
      allOf <$> (matchFields document others).decision setting := by
  rw [decision_matchFields, decision_matchFields]
  exact map_mapM_perm orderFree_allOf permuted _

variable {entries middle others : List (Key × Value)}

theorem decision_applyQuery_of_parts
    (clausesUnmoved : (unmoved names present).clauses entries)
    (fieldsUnmoved : (unmoved names present).fields entries)
    (rewritten : EntriesRewritten entries middle) (permuted : middle.Perm others)
    (wellFormed : Value.EntriesWellFormed entries)
    (notMixed : shapeOfEntries entries ≠ .mixed) (element : Value) :
    (applyQuery entries element).decision (.known names present) =
      (applyQuery others element).decision (.known names present) := by
  rw [decision_applyQuery, decision_applyQuery, ← rewritten.shape_eq permuted]
  cases shape : shapeOfEntries entries with
  | mixed => exact absurd shape notMixed
  | operators =>
      dsimp only
      rw [clausesUnmoved middle (rewritten.clauses shape) wellFormed element,
        decision_matchClauses_perm permuted]
  | plain =>
      dsimp only
      rw [fieldsUnmoved middle (rewritten.fields shape) wellFormed element,
        decision_matchFields_perm permuted]

theorem decision_query_of_parts
    (parts : (unmoved names present).Parts (.mapping entries))
    (rewritten : EntriesRewritten entries middle) (permuted : middle.Perm others)
    (wellFormed : Value.EntriesWellFormed entries) (value : Value) :
    (applyHandler value (.mapping entries) (.known .element)).decision (.known names present) =
      (applyHandler value (.mapping others) (.known .element)).decision
        (.known names present) := by
  have sameLength := rewritten.length_eq.trans permuted.length_eq
  by_cases empty : entries = []
  · subst empty
    obtain rfl : others = [] := List.length_eq_zero_iff.mp sameLength.symm
    rfl
  · have othersNotEmpty : others ≠ [] := by
      rintro rfl
      exact empty (List.length_eq_zero_iff.mp sameLength)
    have sameQuery (notMixed : shapeOfEntries entries ≠ .mixed) (element : Value) :=
      decision_applyQuery_of_parts (parts.clauses _ rfl) (parts.fields _ rfl) rewritten
        permuted wellFormed notMixed element
    rw [decision_element value empty, decision_element value othersNotEmpty,
      ← rewritten.shape_eq permuted]
    cases shape : shapeOfEntries entries with
    | mixed => rfl
    | operators | plain =>
        cases value.items? with
        | none => rfl
        | some elements => simp only [sameQuery (by simp [shape])]

theorem decision_element_of_parts {operand changed : Value}
    (parts : (unmoved names present).Parts operand)
    (rewritten : OperandRewritten (some .element) operand changed)
    (wellFormed : operand.WellFormed) (value : Value) :
    (applyHandler value operand (.known .element)).decision (.known names present) =
      (applyHandler value changed (.known .element)).decision (.known names present) := by
  have refused {operand : Value} (noMapping : operand.entries? = none) :
      (applyHandler value operand (.known .element)).decision (.known names present) =
        none := by
    cases operand with
    | mapping entries => cases noMapping
    | _ => rfl
  cases rewritten.mappings with
  | neither none otherNone => rw [refused none, refused otherNone]
  | both entriesRewritten permuted =>
      exact decision_query_of_parts parts entriesRewritten permuted wellFormed.2 value

theorem decision_listed_of_parts {operator : Operator} {operand changed : Value}
    {combine : List Bool → Bool} (orderFree : OrderFree combine)
    (combines : ∀ operand,
      (applyHandler value operand (.known operator)).decision (.known names present) =
        match operand.items? with
        | some conditions =>
            combine <$> (matchEach value conditions).decision (.known names present)
        | none => some false)
    (logical : operator ∈ [.conjunction, .disjunction])
    (parts : (unmoved names present).Parts operand)
    (rewritten : OperandRewritten (some operator) operand changed)
    (wellFormed : operand.WellFormed) :
    (applyHandler value operand (.known operator)).decision (.known names present) =
      (applyHandler value changed (.known operator)).decision (.known names present) := by
  rw [combines, combines]
  rcases rewritten.items? logical with
    ⟨none, otherNone⟩ | ⟨conditions, middle, others, held, otherHeld, each, permuted⟩
  · rw [none, otherNone]
  · rw [held, otherHeld]
    dsimp only
    rw [parts.each conditions held middle each (wellFormed.items held) value,
      decision_matchEach_perm orderFree permuted]

theorem decision_negation_of_parts {operand changed : Value}
    (parts : (unmoved names present).Parts operand) (rewritten : Rewritten operand changed)
    (wellFormed : operand.WellFormed) (value : Value) :
    (applyHandler value operand (.known .negation)).decision (.known names present) =
      (applyHandler value changed (.known .negation)).decision (.known names present) := by
  have unmatched {operand : Value} (noMapping : operand.entries? = none) :
      (applyHandler value operand (.known .negation)).decision (.known names present) =
        some false := by
    cases operand with
    | mapping entries => cases noMapping
    | _ => rfl
  have sameCondition := parts.condition changed rewritten wellFormed value
  cases rewritten.mappings with
  | neither none otherNone => rw [unmatched none, unmatched otherNone]
  | @both entries _ others entriesRewritten permuted =>
      have sameLength := entriesRewritten.length_eq.trans permuted.length_eq
      rw [decision_negation, decision_negation, sameCondition]
      cases entries <;> cases others <;> first | rfl | cases sameLength

theorem decision_applyHandler_of_parts {operator : Operator} {operand changed : Value}
    (parts : (unmoved names present).Parts operand)
    (rewritten : OperandRewritten (some operator) operand changed)
    (wellFormed : operand.WellFormed) (value : Value) :
    (applyHandler value operand (.known operator)).decision (.known names present) =
      (applyHandler value changed (.known operator)).decision (.known names present) := by
  cases operator with
  | conjunction =>
      exact decision_listed_of_parts orderFree_allOf (decision_conjunction value)
        (by decide) parts rewritten wellFormed
  | disjunction =>
      exact decision_listed_of_parts orderFree_anyOf (decision_disjunction value)
        (by decide) parts rewritten wellFormed
  | negation => exact decision_negation_of_parts parts rewritten.negated wellFormed value
  | element => exact decision_element_of_parts parts rewritten wellFormed value
  | _ =>
      rw [applyHandler_plain (by decide) (by decide),
        applyHandler_plain (by decide) (by decide)]
      cases rewritten with
      | data reordered =>
          exact decision_applyPlain_of_reordered _ reordered wellFormed value
      | options member held each permuted otherHeld =>
          exact decision_membership member held otherHeld each permuted wellFormed value
      | conditions member | condition member => simp at member

theorem clauseDecision_of_parts {key : Key} {operand changed : Value}
    (parts : (unmoved names present).Parts operand)
    (rewritten : OperandRewritten (Operator.ofName? key.label) operand changed)
    (wellFormed : operand.WellFormed) (value : Value) :
    clauseDecision (.known names present) value (key, operand) =
      clauseDecision (.known names present) value (key, changed) := by
  unfold clauseDecision
  rw [Setting.handler?_known]
  cases found : Operator.ofName? key.label with
  | none => rfl
  | some operator =>
      rw [found] at rewritten
      exact decision_applyHandler_of_parts parts rewritten wellFormed value

theorem decision_applyField_of_condition {condition changed : Value}
    (conditionUnmoved : (unmoved names present).condition condition)
    (rewritten : Rewritten condition changed) (wellFormed : condition.WellFormed)
    (document : Value) (key : Key) :
    (applyField document key condition).decision (.known names present) =
      (applyField document key changed).decision (.known names present) := by
  cases key with
  | text path =>
      rw [decision_applyField_text, decision_applyField_text]
      cases resolve document path with
      | found value => exact conditionUnmoved changed rewritten wellFormed value
      | missing path =>
          rcases rewritten.presence? with
            ⟨none, otherNone⟩ | ⟨operand, other, asked, otherAsked, reordered⟩
          · rw [none, otherNone]
          · rw [asked, otherAsked]
            exact congrArg (not <$> ·) (flag_of_reordered reordered)
  | _ => rfl

theorem decision_mapping_of_clauses
    (clausesUnmoved : (unmoved names present).clauses entries) {changed : Value}
    (rewritten : Rewritten (.mapping entries) changed)
    (wellFormed : (Value.mapping entries).WellFormed) (value : Value) :
    (matchValue value (.mapping entries)).decision (.known names present) =
      (matchValue value changed).decision (.known names present) := by
  cases rewritten.mappings with
  | neither none => cases none
  | @both _ middle _ entriesRewritten permuted =>
      rw [decision_matchValue_mapping, decision_matchValue_mapping,
        ← entriesRewritten.shape_eq permuted]
      cases shape : shapeOfEntries entries with
      | mixed => rfl
      | operators =>
          dsimp only
          rw [clausesUnmoved middle (entriesRewritten.clauses shape) wellFormed.2 value,
            decision_matchClauses_perm permuted]
      | plain =>
          -- Plain data are not rewritten in any other way than by their order.
          cases rewritten with
          | data reordered =>
              exact congrArg some (reordered.equal_right wellFormed value)
          | operators operatorShape =>
              rw [shape] at operatorShape
              cases operatorShape

theorem unmoved_hereditary (names : CharacterNames) (present : Instant) :
    (unmoved names present).Hereditary where
  atom condition noMapping changed rewritten wellFormed value := by
    cases rewritten with
    | operators => cases noMapping
    | data reordered =>
        have equality {other : Value} (noMapping : other.entries? = none) :
            (matchValue value other).decision (.known names present) =
              some (value.equal other) := by
          cases other with
          | mapping entries => cases noMapping
          | _ => rfl
        have changedNoMapping : changed.entries? = none := by
          cases reordered with
          | same => exact noMapping
          | list each | tuple each => rfl
          | mapping => cases noMapping
        rw [equality noMapping, equality changedNoMapping,
          reordered.equal_right wellFormed value]
  mapping entries clausesUnmoved changed rewritten wellFormed value :=
    decision_mapping_of_clauses clausesUnmoved rewritten wellFormed value
  clausesNil others rewritten wellFormed value := by
    cases rewritten with
    | nil => rfl
  clausesCons key operand rest parts restUnmoved others rewritten wellFormed value := by
    cases rewritten with
    | @cons _ other _ otherRest head tail =>
        cases head with
        | clause key operandRewritten =>
            have restSame := restUnmoved otherRest tail wellFormed.2 value
            rw [decision_matchClauses, decision_matchClauses] at restSame ⊢
            rw [List.mapM_cons, List.mapM_cons, restSame,
              clauseDecision_of_parts parts operandRewritten wellFormed.1 value]
  eachNil others rewritten wellFormed value := by
    cases rewritten with
    | nil => rfl
  eachCons condition rest conditionUnmoved restUnmoved others rewritten wellFormed
      value := by
    cases rewritten with
    | @cons _ other _ otherRest head tail =>
        have restSame := restUnmoved otherRest tail wellFormed.2 value
        rw [decision_matchEach, decision_matchEach] at restSame ⊢
        rw [List.mapM_cons, List.mapM_cons, restSame,
          conditionUnmoved other head wellFormed.1 value]
  fieldsNil others rewritten wellFormed document := by
    cases rewritten with
    | nil => rfl
  fieldsCons key condition rest conditionUnmoved restUnmoved others rewritten wellFormed
      document := by
    cases rewritten with
    | @cons _ other _ otherRest head tail =>
        cases head with
        | field key conditionRewritten =>
            have restSame := restUnmoved otherRest tail wellFormed.2 document
            rw [decision_matchFields, decision_matchFields] at restSame ⊢
            rw [List.mapM_cons, List.mapM_cons, restSame,
              decision_applyField_of_condition conditionUnmoved conditionRewritten
                wellFormed.1 document key]

end Decisions

end Condition

end Criteria
