import Criteria.Proofs.Condition.Answers
import Criteria.Proofs.Pattern.Recency

/-!
# Patterns in use

Which patterns an evaluation asks its engine for.  Deciding a condition asks for
the patterns of the reached clauses that search for one, up to the first clause
with a fault, from left to right and each as often as it is reached.
-/

namespace Criteria

namespace Condition

/-- The pattern that a handler searches for, if it does. -/
def searched? (operand : Value) : Handler → Option String
  | .known .regex =>
      match operand with
      | .text pattern => some pattern
      | _ => none
  | _ => none

end Condition

namespace Setting

open Condition

/-- The pattern that a clause searches for, if it does. -/
def pattern? (setting : Setting) : Clause → Option String
  | .operator name _ operand => (setting.handler? name).bind (searched? operand)
  | _ => none

/-- The patterns that are asked for when clauses come up. -/
def asked (setting : Setting) (clauses : List Clause) : List String :=
  (untilFault setting.fault? clauses).filterMap setting.pattern?

variable {setting : Setting}

theorem asked_append (first second : List Clause) :
    setting.asked (first ++ second) = setting.asked first ++
      if (first.findSome? setting.fault?).isNone then setting.asked second else [] := by
  unfold asked
  rw [untilFault_append, List.filterMap_append]
  split <;> rfl

@[simp] theorem asked_nil : setting.asked [] = [] :=
  rfl

theorem asked_cons (clause : Clause) (clauses : List Clause) :
    setting.asked (clause :: clauses) = (setting.pattern? clause).toList ++
      if (setting.fault? clause).isNone then setting.asked clauses else [] := by
  unfold asked
  rw [untilFault, List.filterMap_cons]
  cases setting.pattern? clause <;> cases setting.fault? clause <;> rfl

end Setting

namespace Evaluation

/-- On every engine that serves the setting, the evaluation asks for the patterns
one after the other, and does nothing else to the cache. -/
structure Uses (setting : Setting) (evaluation : Evaluation α)
    (patterns : List String) : Prop where
  patterns_eq : ∀ {engine : Engine}, engine.Serves setting →
    (evaluation.run.run engine).2.patterns = engine.patterns.after (patterns.map .get)

section Composition

variable {setting : Setting}

theorem uses_pure (value : α) : (pure value : Evaluation α).Uses setting [] :=
  ⟨fun _ => rfl⟩

theorem uses_throw (fault : Fault) : (throw fault : Evaluation α).Uses setting [] :=
  ⟨fun _ => rfl⟩

theorem uses_ofExcept (result : Except Fault α) : (ofExcept result).Uses setting [] :=
  ⟨fun _ => rfl⟩

theorem uses_ofPresent (result : Instant → Except Fault α) :
    (do ofExcept (result (← get).present) : Evaluation α).Uses setting [] :=
  ⟨fun _ => rfl⟩

theorem uses_getPattern (pattern : String) : (getPattern pattern).Uses setting [pattern] := by
  refine ⟨fun {engine} serving => ?_⟩
  rw [run_getPattern pattern serving.sound]
  rfl

/-- What comes after a first part is put to use only if that part has no fault. -/
theorem Uses.bind {evaluation : Evaluation α} {next : α → Evaluation β}
    {first second : List Condition.Clause} {result : α} (steady : evaluation.Steady)
    (answered : evaluation.outcome setting = Condition.answer setting.fault? first result)
    (uses : evaluation.Uses setting (setting.asked first))
    (nextUses : (next result).Uses setting (setting.asked second)) :
    (evaluation >>= next).Uses setting (setting.asked (first ++ second)) := by
  refine ⟨fun {engine} serving => ?_⟩
  rw [run_bind, steady.result serving, answered, Setting.asked_append]
  unfold Condition.answer
  cases first.findSome? setting.fault? with
  | some fault =>
      simp only [Condition.unlessFault_some, Option.isNone_some, Bool.false_eq_true,
        if_false, List.append_nil]
      exact uses.patterns_eq serving
  | none =>
      simp only [Condition.unlessFault_none, Option.isNone_none, if_true, List.map_append,
        Pattern.Cache.after_append]
      rw [nextUses.patterns_eq (steady.serves serving), uses.patterns_eq serving]

theorem Uses.map {evaluation : Evaluation α} {patterns : List String} (function : α → β)
    (uses : evaluation.Uses setting patterns) :
    (function <$> evaluation).Uses setting patterns := by
  refine ⟨fun {engine} serving => ?_⟩
  rw [map_eq_pure_bind, run_bind, ← uses.patterns_eq serving]
  cases (evaluation.run.run engine).1 <;> rfl

/-- A first result and the list of the others. -/
theorem Uses.cons {first : Evaluation α} {others : Evaluation (List α)}
    {firstClauses otherClauses : List Condition.Clause} {result : α}
    (steady : first.Steady)
    (answered : first.outcome setting = Condition.answer setting.fault? firstClauses result)
    (uses : first.Uses setting (setting.asked firstClauses))
    (othersUses : others.Uses setting (setting.asked otherClauses)) :
    (do return (← first) :: (← others) : Evaluation (List α)).Uses setting
      (setting.asked (firstClauses ++ otherClauses)) := by
  refine uses.bind steady answered ?_
  have mapped := othersUses.map (result :: ·)
  rwa [map_eq_pure_bind] at mapped

theorem uses_mapM {items : List α} {step : α → Evaluation β}
    (clauses : α → List Condition.Clause) (result : α → β)
    (steady : ∀ item ∈ items, (step item).Steady)
    (answers : ∀ item ∈ items, (step item).outcome setting =
      Condition.answer setting.fault? (clauses item) (result item))
    (uses : ∀ item ∈ items, (step item).Uses setting (setting.asked (clauses item))) :
    (items.mapM step).Uses setting (setting.asked (items.flatMap clauses)) := by
  induction items with
  | nil => exact uses_pure []
  | cons item items induction =>
      rw [List.forall_mem_cons] at steady answers uses
      rw [List.mapM_cons, List.flatMap_cons]
      exact uses.1.cons steady.1 answers.1 (induction steady.2 answers.2 uses.2)

theorem uses_findHandler_bind {name : String} {handler : Handler}
    (found : setting.handler? name = some handler) {next : Handler → Evaluation α}
    {patterns : List String} (uses : (next handler).Uses setting patterns) :
    (findHandler name >>= next).Uses setting patterns := by
  refine ⟨fun {engine} serving => ?_⟩
  have known : knownHandler engine.setting name = .ok handler := by
    rw [serving.setting_eq, knownHandler, found]
  rw [run_bind, run_findHandler, known]
  exact uses.patterns_eq ⟨serving.setting_eq, serving.sound⟩

theorem uses_findHandler_bind_of_unknown {name : String}
    (unknown : setting.handler? name = none) (next : Handler → Evaluation α) :
    (findHandler name >>= next).Uses setting [] := by
  refine ⟨fun {engine} serving => ?_⟩
  have missing : knownHandler engine.setting name = .error (.unknownOperator name) := by
    rw [serving.setting_eq, knownHandler, unknown]
  rw [run_bind, run_findHandler, missing]
  rfl

end Composition

end Evaluation

namespace Condition

open Evaluation

variable {setting : Setting}

theorem uses_matchesPattern (value operand : Value) :
    (matchesPattern value operand).Uses setting
      (match operand with
        | .text pattern => [pattern]
        | _ => []) := by
  cases operand with
  | text pattern =>
      refine ⟨fun {engine} serving => ?_⟩
      rw [matchesPattern, run_bind, ← (uses_getPattern pattern).patterns_eq serving]
      cases ((getPattern pattern).run.run engine).1 with
      | ok compiled => cases value <;> rfl
      | error fault => rfl
  | _ => exact uses_throw _

theorem uses_applyPlain {operator : Operator} (notRegex : operator ≠ .regex)
    (value operand : Value) : (applyPlain operator value operand).Uses setting [] := by
  cases operator with
  | regex => exact absurd rfl notRegex
  | dateBefore => exact uses_ofPresent fun present => value.isBefore present operand
  | dateAfter => exact uses_ofPresent fun present => value.isAfter present operand
  | equal | notEqual | between | contains | startsWith | endsWith
  | element | conjunction | disjunction | negation => exact uses_pure _
  | _ => exact uses_ofExcept _

/-- Each list of parts asks for the patterns of the clauses reached in it. -/
def usage (setting : Setting) : Motive where
  condition condition := ∀ value, (matchValue value condition).Uses setting
    (setting.asked (reached setting value condition))
  clauses clauses := ∀ value, (matchClauses value clauses).Uses setting
    (setting.asked (reachedClauses setting value clauses))
  each conditions := ∀ value, (matchEach value conditions).Uses setting
    (setting.asked (reachedEach setting value conditions))
  fields fields := ∀ document, (matchFields document fields).Uses setting
    (setting.asked (reachedFields setting document fields))

/-- A question that no handler is applied for asks for no pattern. -/
theorem asked_shape (value condition : Value) (clauses : List Clause) :
    setting.asked (.shape value condition :: clauses) =
      if (setting.fault? (.shape value condition)).isNone then setting.asked clauses
      else [] :=
  Setting.asked_cons _ _

theorem fault?_shape (value : Value) {entries : List (Key × Value)}
    (notMixed : shapeOfEntries entries ≠ .mixed) :
    setting.fault? (.shape value (.mapping entries)) = none := by
  cases shape : shapeOfEntries entries with
  | mixed => exact absurd shape notMixed
  | _ => simp [Setting.fault?, checkShape, shape, faultOf]

theorem uses_applyQuery_of_parts {entries : List (Key × Value)}
    (clausesUses : (usage setting).clauses entries)
    (fieldsUses : (usage setting).fields entries)
    (notMixed : shapeOfEntries entries ≠ .mixed) (element : Value) :
    (applyQuery entries element).Uses setting
      (setting.asked (reachedQuery setting entries element)) := by
  cases shape : shapeOfEntries entries with
  | mixed => exact absurd shape notMixed
  | operators =>
      simp only [applyQuery, reachedQuery, shape, asked_shape, fault?_shape element notMixed,
        Option.isNone_none, if_true]
      exact (clausesUses element).map allOf
  | plain =>
      simp only [applyQuery, reachedQuery, shape]
      cases element.entries?.isSome with
      | true => exact (fieldsUses element).map allOf
      | false => exact uses_pure false

theorem asked_operator {name : String} {handler : Handler}
    (found : setting.handler? name = some handler) (value operand : Value)
    (clauses : List Clause) :
    setting.asked (.operator name value operand :: clauses) =
      (searched? operand handler).toList ++
        if (ownFault? setting value operand handler).isNone then setting.asked clauses
        else [] := by
  rw [Setting.asked_cons]
  simp only [Setting.pattern?, Setting.fault?, found, Option.bind_some]

theorem uses_element_of_parts {operand : Value} (parts : (usage setting).Parts operand)
    (value : Value) :
    (applyHandler value operand (.known .element)).Uses setting
      (if (ownFault? setting value operand (.known .element)).isNone then
        setting.asked (nestedClauses setting value operand (.known .element))
      else []) := by
  rcases operand with _ | _ | _ | _ | _ | _ | _ | _ | (_ | ⟨entry, entries⟩)
  case mapping.cons =>
    have queryUses := uses_applyQuery_of_parts (parts.clauses _ rfl) (parts.fields _ rfl)
    by_cases mixed : shapeOfEntries (entry :: entries) = .mixed
    · simp only [applyHandler, applyElement, ownFault?, mixed]
      exact uses_throw _
    · simp only [applyHandler, applyElement, ownFault?, nestedClauses, if_neg mixed,
        Option.isNone_none, if_true]
      have elementsUse (elements : List Value) :
          (elements.mapM (applyQuery (entry :: entries))).Uses setting
            (setting.asked (elements.flatMap (reachedQuery setting (entry :: entries)))) :=
        uses_mapM (reachedQuery setting (entry :: entries))
          (queryHolds setting (entry :: entries))
          (fun element _ => steady_applyQuery _ element)
          (fun element _ => outcome_applyQuery mixed element)
          (fun element _ => queryUses mixed element)
      cases shape : shapeOfEntries (entry :: entries) with
      | mixed => exact absurd shape mixed
      | operators | plain =>
          cases value.items? with
          | none => exact uses_pure false
          | some elements => exact (elementsUse elements).map anyOf
  all_goals exact uses_throw _

theorem uses_applyHandler_of_parts {operand : Value} (parts : (usage setting).Parts operand)
    (value : Value) {name : String} {handler : Handler}
    (found : setting.handler? name = some handler) :
    (applyHandler value operand handler).Uses setting (setting.asked
      (.operator name value operand :: nestedClauses setting value operand handler)) := by
  rw [asked_operator found]
  cases handler with
  | custom run =>
      simp only [nestedClauses, Setting.asked_nil, ite_self]
      exact (uses_ofExcept _).map _
  | known operator =>
      cases operator with
      | conjunction =>
          simp only [applyHandler, nestedClauses]
          cases items : operand.items? with
          | none => exact uses_pure false
          | some conditions => exact (parts.each conditions items value).map allOf
      | disjunction =>
          simp only [applyHandler, nestedClauses]
          cases items : operand.items? with
          | none => exact uses_pure false
          | some conditions => exact (parts.each conditions items value).map anyOf
      | negation =>
          rcases operand with _ | _ | _ | _ | _ | _ | _ | _ | (_ | ⟨entry, entries⟩)
          case mapping.cons => exact (parts.condition value).map not
          all_goals exact uses_pure false
      | element => exact uses_element_of_parts parts value
      | regex =>
          simp only [nestedClauses, Setting.asked_nil, ite_self, List.append_nil]
          have uses : (matchesPattern value operand).Uses setting _ :=
            uses_matchesPattern value operand
          cases operand <;> exact uses
      | _ =>
          rw [applyHandler_plain (by decide) (by decide)]
          simp only [nestedClauses, Setting.asked_nil, ite_self]
          exact uses_applyPlain (by decide) value operand

theorem uses_applyField_of_condition {condition : Value}
    (conditionUses : (usage setting).condition condition) (document : Value) (key : Key) :
    (applyField document key condition).Uses setting
      (setting.asked (fieldClauses setting document key condition)) := by
  cases key with
  | text path =>
      simp only [applyField, fieldClauses]
      cases resolve document path with
      | found value => exact conditionUses value
      | missing path =>
          cases presence? condition with
          | none => exact uses_pure false
          | some operand =>
              rw [Setting.asked_cons, Setting.asked_nil, ite_self]
              exact (uses_ofExcept (flag operand)).map not
  | _ =>
      simp only [fieldClauses]
      rw [Setting.asked_cons, Setting.asked_nil, ite_self]
      exact uses_throw _

theorem usage_hereditary (setting : Setting) : (usage setting).Hereditary where
  atom condition noMapping value := by
    cases condition with
    | mapping entries => cases noMapping
    | _ =>
        rw [reached, asked_shape, Setting.asked_nil, ite_self]
        · exact uses_pure _
        · rintro entries ⟨⟩
  mapping entries clausesUses value := by
    rw [matchValue, reached, asked_shape]
    cases shape : shapeOfEntries entries with
    | mixed =>
        rw [Setting.asked_nil, ite_self]
        exact uses_throw _
    | plain =>
        rw [Setting.asked_nil, ite_self]
        exact uses_pure _
    | operators =>
        rw [fault?_shape value (by simp [shape]), Option.isNone_none, if_pos rfl]
        exact (clausesUses value).map allOf
  clausesNil value := uses_pure []
  clausesCons key operand rest parts restUses value := by
    rw [matchClauses_cons, reachedClauses_cons]
    cases found : setting.handler? key.label with
    | none =>
        -- Neither the operand nor the rest is looked at after an unknown name.
        rw [List.cons_append, Setting.asked_cons]
        simp only [Setting.pattern?, Setting.fault?, found]
        exact uses_findHandler_bind_of_unknown found _
    | some handler =>
        refine uses_findHandler_bind found ?_
        have handlerAnswer : (applyHandler value operand handler).outcome setting = _ :=
          outcome_applyHandler value operand handler
        rw [← answer_operator found] at handlerAnswer
        exact (uses_applyHandler_of_parts parts value found).cons
          (steady_applyHandler value operand handler) handlerAnswer (restUses value)
  eachNil value := uses_pure []
  eachCons condition rest conditionUses restUses value := by
    rw [matchEach_cons, reachedEach]
    exact (conditionUses value).cons (steady_matchValue value condition)
      (outcome_matchValue value condition) (restUses value)
  fieldsNil document := uses_pure []
  fieldsCons key condition rest conditionUses restUses document := by
    rw [matchFields_cons, reachedFields_cons]
    exact (uses_applyField_of_condition conditionUses document key).cons
      (steady_applyField document condition key)
      (outcome_applyField document key condition) (restUses document)

/-- A field asks for the patterns of the clauses that are reached through it. -/
theorem uses_applyField (document : Value) (key : Key) (condition : Value) :
    (applyField document key condition).Uses setting
      (setting.asked (fieldClauses setting document key condition)) :=
  uses_applyField_of_condition ((usage_hereditary setting).condition condition) document key

end Condition

end Criteria
