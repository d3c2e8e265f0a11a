import Criteria.Proofs.Condition.Clauses

/-!
# Answers to reached clauses

No question is left out because another one has been answered: deciding a
condition ends in the fault of the first reached clause that has one, and
otherwise in the truth value that the condition has by classical logic.
-/

namespace Criteria

namespace Condition

section Outcomes

open Evaluation

variable {setting : Setting}

/-- Each list of parts yields the answer to the clauses reached in it. -/
def answering (setting : Setting) : Motive where
  condition condition := ∀ value, (matchValue value condition).outcome setting =
    answer setting.fault? (reached setting value condition) (satisfies setting value condition)
  clauses clauses := ∀ value, (matchClauses value clauses).outcome setting =
    answer setting.fault? (reachedClauses setting value clauses) (clauseTruths setting value clauses)
  each conditions := ∀ value, (matchEach value conditions).outcome setting =
    answer setting.fault? (reachedEach setting value conditions) (truths setting value conditions)
  fields fields := ∀ document, (matchFields document fields).outcome setting =
    answer setting.fault? (reachedFields setting document fields)
      (fieldTruths setting document fields)

theorem outcome_applyQuery_of_parts {entries : List (Key × Value)}
    (clausesAnswer : (answering setting).clauses entries)
    (fieldsAnswer : (answering setting).fields entries)
    (notMixed : shapeOfEntries entries ≠ .mixed) (element : Value) :
    (applyQuery entries element).outcome setting =
      answer setting.fault? (reachedQuery setting entries element)
        (queryHolds setting entries element) := by
  cases shape : shapeOfEntries entries with
  | mixed => exact absurd shape notMixed
  | operators =>
      have wellShaped :
          setting.fault? (.shape element (.mapping entries)) = none := by
        simp [Setting.fault?, checkShape, shape, faultOf]
      simp only [applyQuery, reachedQuery, queryHolds, shape]
      rw [outcome_map _ (steady_matchClauses element entries),
        clausesAnswer element, map_answer, answer_cons, wellShaped,
        unlessFault_none]
  | plain =>
      simp only [applyQuery, reachedQuery, queryHolds, shape]
      cases element.entries?.isSome with
      | true =>
          rw [if_pos rfl, if_pos rfl,
            outcome_map _ (steady_matchFields element entries),
            fieldsAnswer element, map_answer, Bool.true_and]
      | false => rfl

theorem outcome_element_of_parts {entry : Key × Value} {entries : List (Key × Value)}
    (parts : (answering setting).Parts (.mapping (entry :: entries)))
    (value : Value) :
    (applyHandler value (.mapping (entry :: entries)) (.known .element)).outcome setting =
      unlessFault
        (ownFault? setting value (.mapping (entry :: entries)) (.known .element))
        (answer setting.fault?
          (nestedClauses setting value (.mapping (entry :: entries)) (.known .element))
          (handlerHolds setting value (.mapping (entry :: entries)) (.known .element))) := by
  have queryAnswer := outcome_applyQuery_of_parts (parts.clauses _ rfl)
    (parts.fields _ rfl)
  rw [outcome_element]
  simp only [ownFault?, nestedClauses, handlerHolds]
  cases shape : shapeOfEntries (entry :: entries) with
  | mixed => rfl
  | operators | plain =>
      cases value.items? with
      | none => rfl
      | some elements =>
          have elementAnswers : ∀ element ∈ elements, _ := fun element _ =>
            queryAnswer (by simp [shape]) element
          dsimp only
          rw [answer_mapM _ _ elementAnswers, map_answer]
          simp [anyOf_map]

theorem outcome_applyHandler_of_parts {operand : Value}
    (parts : (answering setting).Parts operand) (value : Value)
    (handler : Handler) :
    (applyHandler value operand handler).outcome setting =
      unlessFault (ownFault? setting value operand handler)
        (answer setting.fault? (nestedClauses setting value operand handler)
          (handlerHolds setting value operand handler)) := by
  cases handler with
  | custom run =>
      exact (outcome_map _ (steady_ofExcept _)).trans (map_eq_unlessFault _ _)
  | known operator =>
      cases operator with
      | conjunction =>
          simp only [outcome_conjunction, nestedClauses, handlerHolds]
          cases items : operand.items? with
          | none => rfl
          | some conditions =>
              simp only [parts.each conditions items value, map_answer]
              rfl
      | disjunction =>
          simp only [outcome_disjunction, nestedClauses, handlerHolds]
          cases items : operand.items? with
          | none => rfl
          | some conditions =>
              simp only [parts.each conditions items value, map_answer]
              rfl
      | negation =>
          rcases operand with _ | _ | _ | _ | _ | _ | _ | _ | (_ | ⟨entry, entries⟩)
          case mapping.cons =>
            simp only [outcome_negation, nestedClauses, handlerHolds,
              parts.condition value, map_answer]
            rfl
          all_goals rfl
      | element =>
          rcases operand with _ | _ | _ | _ | _ | _ | _ | _ | (_ | ⟨entry, entries⟩)
          case mapping.cons =>
            exact outcome_element_of_parts parts value
          all_goals rfl
      | _ =>
          rw [outcome_plain value operand (by decide) (by decide)]
          exact eq_unlessFault _

theorem outcome_applyField_of_condition {condition : Value}
    (conditionAnswer : (answering setting).condition condition) (document : Value)
    (key : Key) :
    (applyField document key condition).outcome setting =
      answer setting.fault? (fieldClauses setting document key condition)
        (fieldHolds setting document key condition) := by
  cases key with
  | text path =>
      rw [outcome_applyField_text]
      simp only [fieldClauses, fieldHolds]
      cases resolve document path with
      | found value => exact conditionAnswer value
      | missing path =>
          cases presence? condition with
          | none => rfl
          | some operand =>
              dsimp only
              rw [answer_cons]
              exact map_eq_unlessFault not (flag operand)
  | _ => rfl

/-- A clause of a known operator fails as the operator does. -/
theorem answer_operator {name : String} {handler : Handler}
    (found : setting.handler? name = some handler) (value operand : Value)
    (clauses : List Clause) (result : α) :
    answer setting.fault? (.operator name value operand :: clauses) result =
      unlessFault (ownFault? setting value operand handler)
        (answer setting.fault? clauses result) := by
  rw [answer_cons]
  simp only [Setting.fault?, found]

theorem answering_hereditary (setting : Setting) :
    (answering setting).Hereditary where
  atom condition noMapping value := by
    cases condition with
    | mapping entries => cases noMapping
    | _ => rfl
  mapping entries clausesAnswer value := by
    rw [outcome_matchValue_mapping, reached, satisfies, answer_cons]
    cases shape : shapeOfEntries entries with
    | mixed => simp [Setting.fault?, checkShape, shape, faultOf]
    | plain => simp [Setting.fault?, checkShape, shape, faultOf, answer]
    | operators =>
        simp [Setting.fault?, checkShape, shape, faultOf, clausesAnswer value, map_answer]
  clausesNil value := rfl
  clausesCons key operand rest parts restAnswer value := by
    rw [outcome_matchClauses_cons, reachedClauses_cons, clauseTruths_cons]
    cases found : setting.handler? key.label with
    | none =>
        -- Neither the operand nor the rest is looked at after an unknown name.
        rw [List.cons_append, answer_cons]
        simp only [knownHandler, Setting.fault?, found]
        rfl
    | some handler =>
        have handlerAnswer : (applyHandler value operand handler).outcome setting =
            answer setting.fault? (.operator key.label value operand ::
              nestedClauses setting value operand handler)
              (handlerHolds setting value operand handler) := by
          rw [outcome_applyHandler_of_parts parts, answer_operator found]
        simp only [knownHandler, found]
        exact answer_extend handlerAnswer (restAnswer value)
  eachNil value := rfl
  eachCons condition rest conditionAnswer restAnswer value := by
    rw [outcome_matchEach_cons, reachedEach, truths]
    exact answer_extend (conditionAnswer value) (restAnswer value)
  fieldsNil document := rfl
  fieldsCons key condition rest conditionAnswer restAnswer document := by
    rw [outcome_matchFields_cons, reachedFields_cons, fieldTruths_cons]
    exact answer_extend
      (outcome_applyField_of_condition conditionAnswer document key)
      (restAnswer document)

theorem outcome_matchValue (value condition : Value) :
    (matchValue value condition).outcome setting =
      answer setting.fault? (reached setting value condition)
        (satisfies setting value condition) :=
  (answering_hereditary setting).condition condition value

theorem outcome_matchFields (document : Value) (query : List (Key × Value)) :
    (matchFields document query).outcome setting =
      answer setting.fault? (reachedFields setting document query)
        (fieldTruths setting document query) :=
  (answering_hereditary setting).fields query document

theorem outcome_applyQuery {entries : List (Key × Value)}
    (notMixed : shapeOfEntries entries ≠ .mixed) (element : Value) :
    (applyQuery entries element).outcome setting =
      answer setting.fault? (reachedQuery setting entries element)
        (queryHolds setting entries element) :=
  outcome_applyQuery_of_parts ((answering_hereditary setting).clauses entries)
    ((answering_hereditary setting).fields entries) notMixed element

theorem outcome_applyField (document : Value) (key : Key) (condition : Value) :
    (applyField document key condition).outcome setting =
      answer setting.fault? (fieldClauses setting document key condition)
        (fieldHolds setting document key condition) :=
  outcome_applyField_of_condition ((answering_hereditary setting).condition condition)
    document key

theorem outcome_applyHandler (value operand : Value) (handler : Handler) :
    (applyHandler value operand handler).outcome setting =
      unlessFault (ownFault? setting value operand handler)
        (answer setting.fault? (nestedClauses setting value operand handler)
          (handlerHolds setting value operand handler)) :=
  outcome_applyHandler_of_parts ((answering_hereditary setting).parts operand)
    value handler

end Outcomes

/-- A fault is never hidden by a result beside it, whatever operators the table
has: deciding a condition fails if and only if a reached clause does, it fails
like the first of these, and it yields the classical truth value otherwise. -/
theorem matchValue_hides_no_fault {engine : Engine}
    (sound : engine.patterns.Sound) (value condition : Value) :
    let result := ((matchValue value condition).run.run engine).1
    let clauses := reached engine.setting value condition
    let fault? := engine.setting.fault?
    ((∃ fault, result = .error fault) ↔ ∃ clause ∈ clauses, fault? clause ≠ none) ∧
    (∀ fault, result = .error fault ↔
      ∃ before clause after, clauses = before ++ clause :: after ∧
        (∀ earlier ∈ before, fault? earlier = none) ∧ fault? clause = some fault) ∧
    ((∀ clause ∈ clauses, fault? clause = none) →
      result = .ok (satisfies engine.setting value condition)) := by
  intro result clauses fault?
  have resultAnswer : result =
      answer engine.setting.fault? clauses (satisfies engine.setting value condition) :=
    ((steady_matchValue value condition).result ⟨rfl, sound⟩).trans
      (outcome_matchValue value condition)
  rw [resultAnswer]
  exact ⟨exists_answer_eq_error_iff, fun fault => answer_eq_error_iff,
    answer_of_no_fault⟩

theorem unknown_operator_not_hidden_by_equal_sibling :
    let setting := Setting.known .standard default
    setting.engine.patterns.Sound ∧
    ((matchValue (.integer 1) (.mapping [(.text "$or", .list
        [.mapping [(.text "$eq", .integer 1)],
          .mapping [(.text "$near", .integer 2)]])])).run.run setting.engine).1 =
      .error (.unknownOperator "$near") := by
  have sound := (Engine.serves_engine (Setting.known .standard default)).sound
  refine ⟨sound, ((matchValue_hides_no_fault sound _ _).2.1 _).mpr ?_⟩
  exact ⟨[.shape (.integer 1) _, .operator "$or" (.integer 1) _,
      .shape (.integer 1) _, .operator "$eq" (.integer 1) (.integer 1),
      .shape (.integer 1) _],
    .operator "$near" (.integer 1) (.integer 2), [], rfl,
    by simp only [List.forall_mem_cons]; exact ⟨rfl, rfl, rfl, rfl, rfl, nofun⟩, rfl⟩

end Condition

end Criteria
