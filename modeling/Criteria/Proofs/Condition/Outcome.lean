import Criteria.Condition.Matching
import Criteria.Proofs.Condition.Induction
import Criteria.Proofs.Engine.Steadiness

/-!
# Outcomes of conditions

Deciding a condition is steady, so that what it yields is a function of the
setting, the value and the condition.
-/

namespace Criteria

namespace Condition

/-- What an element of a collection makes of a query: of its operators, or else
of its fields. -/
def applyQuery (entries : List (Key × Value)) (element : Value) : Evaluation Bool :=
  match shapeOfEntries entries with
  | .operators => allOf <$> matchClauses element entries
  | _ =>
      if element.entries?.isSome then allOf <$> matchFields element entries
      else pure false

/-- What the elements of a value make of a query. -/
def applyElement (value operand : Value) : Evaluation Bool :=
  match operand with
  | .mapping [] => throw (.queryExpected .object)
  | .mapping entries =>
      match shapeOfEntries entries, value.items? with
      | .mixed, _ => throw .mixedQuery
      | _, none => pure false
      | _, some elements => anyOf <$> elements.mapM (applyQuery entries)
  | other => throw (.queryExpected other.kind)

/-- What a handler makes of a value and an operand. -/
def applyHandler (value operand : Value) : Handler → Evaluation Bool
  | .custom run => Value.isTruthy <$> Evaluation.ofExcept (run value operand)
  | .known .conjunction =>
      match operand.items? with
      | some conditions => allOf <$> matchEach value conditions
      | none => pure false
  | .known .disjunction =>
      match operand.items? with
      | some conditions => anyOf <$> matchEach value conditions
      | none => pure false
  | .known .negation =>
      match operand with
      | .mapping (_ :: _) => not <$> matchValue value operand
      | _ => pure false
  | .known .element => applyElement value operand
  | .known operator => applyPlain operator value operand

/-- The operators outside the structural and logical families see values only. -/
theorem applyHandler_plain {operator : Operator} {value operand : Value}
    (notStructural : operator.family ≠ .structural)
    (notLogical : operator.family ≠ .logical) :
    applyHandler value operand (.known operator) =
      applyPlain operator value operand := by
  cases operator <;> first | rfl | contradiction

/-- What a field of a query makes of a document. -/
def applyField (document : Value) (key : Key) (condition : Value) : Evaluation Bool :=
  match key with
  | .text path =>
      match resolve document path with
      | .found value => matchValue value condition
      | .missing _ =>
          match presence? condition with
          | some operand => matchAbsent operand
          | none => pure false
  | _ => throw (.crash .keyNotText)

theorem matchClauses_cons (value : Value) (key : Key) (operand : Value)
    (rest : List (Key × Value)) :
    matchClauses value ((key, operand) :: rest) = (do
      let handler ← Evaluation.findHandler key.label
      let outcome ← applyHandler value operand handler
      let others ← matchClauses value rest
      pure (outcome :: others)) := by
  rw [matchClauses.eq_def]
  dsimp only
  congr 1
  funext handler
  congr 1
  cases handler with
  | custom run => rfl
  | known operator =>
      cases operator with
      | element =>
          rcases operand with _ | _ | _ | _ | _ | _ | _ | _ | (_ | ⟨entry, entries⟩)
          case mapping.cons =>
            simp only [applyHandler, applyElement]
            unfold applyQuery
            cases shapeOfEntries (entry :: entries) <;>
              cases value.items? <;> rfl
          all_goals rfl
      | negation =>
          rcases operand with _ | _ | _ | _ | _ | _ | _ | _ | (_ | _) <;> rfl
      | _ => cases operand <;> rfl

theorem matchEach_cons (value condition : Value) (rest : List Value) :
    matchEach value (condition :: rest) = (do
      let outcome ← matchValue value condition
      let others ← matchEach value rest
      pure (outcome :: others)) := by
  rw [matchEach]

theorem matchFields_cons (document : Value) (key : Key) (condition : Value)
    (rest : List (Key × Value)) :
    matchFields document ((key, condition) :: rest) = (do
      let outcome ← applyField document key condition
      let others ← matchFields document rest
      pure (outcome :: others)) := by
  rw [matchFields.eq_def]
  dsimp only
  cases key <;> rfl

section Steadiness

open Evaluation

theorem steady_matchesPattern (value operand : Value) :
    (matchesPattern value operand).Steady := by
  cases operand with
  | text pattern =>
      refine steady_bind (steady_getPattern pattern) fun compiled => ?_
      cases value <;> exact steady_pure _
  | _ => exact steady_throw _

theorem steady_applyPlain (operator : Operator) (value operand : Value) :
    (applyPlain operator value operand).Steady := by
  cases operator with
  | regex => exact steady_matchesPattern value operand
  | dateBefore =>
      exact steady_ofPresent fun present => value.isBefore present operand
  | dateAfter =>
      exact steady_ofPresent fun present => value.isAfter present operand
  | equal | notEqual | between | contains | startsWith | endsWith
  | element | conjunction | disjunction | negation => exact steady_pure _
  | _ => exact steady_ofExcept _

theorem steady_matchAbsent (operand : Value) : (matchAbsent operand).Steady :=
  steady_bind (steady_ofExcept _) fun _ => steady_pure _

def steadiness : Motive where
  condition condition := ∀ value, (matchValue value condition).Steady
  clauses clauses := ∀ value, (matchClauses value clauses).Steady
  each conditions := ∀ value, (matchEach value conditions).Steady
  fields fields := ∀ document, (matchFields document fields).Steady

theorem steady_applyQuery_of_parts {entries : List (Key × Value)} (element : Value)
    (clausesSteady : steadiness.clauses entries)
    (fieldsSteady : steadiness.fields entries) :
    (applyQuery entries element).Steady := by
  unfold applyQuery
  split
  · exact steady_map _ (clausesSteady element)
  · split
    · exact steady_map _ (fieldsSteady element)
    · exact steady_pure false

theorem steady_applyHandler_of_parts {operand : Value}
    (parts : steadiness.Parts operand) (value : Value) (handler : Handler) :
    (applyHandler value operand handler).Steady := by
  cases handler with
  | custom run => exact steady_map _ (steady_ofExcept _)
  | known operator =>
      cases operator with
      | conjunction | disjunction =>
          simp only [applyHandler]
          split
          · exact steady_map _ (parts.each _ ‹_› value)
          · exact steady_pure false
      | negation =>
          simp only [applyHandler]
          split
          · exact steady_map _ (parts.condition value)
          · exact steady_pure false
      | element =>
          simp only [applyHandler, applyElement]
          split
          · exact steady_throw _
          · split
            · exact steady_throw _
            · exact steady_pure false
            · exact steady_map _ (steady_mapM fun element _ =>
                steady_applyQuery_of_parts element (parts.clauses _ rfl)
                  (parts.fields _ rfl))
          · exact steady_throw _
      | _ =>
          rw [applyHandler_plain (by decide) (by decide)]
          exact steady_applyPlain _ value operand

theorem steady_applyField_of_condition {condition : Value}
    (conditionSteady : steadiness.condition condition) (document : Value)
    (key : Key) : (applyField document key condition).Steady := by
  cases key with
  | text path =>
      simp only [applyField]
      split
      · exact conditionSteady _
      · split
        · exact steady_matchAbsent _
        · exact steady_pure false
  | _ => exact steady_throw _

theorem steadiness_hereditary : steadiness.Hereditary where
  atom condition noMapping value := by
    cases condition with
    | mapping entries => cases noMapping
    | _ => exact steady_pure _
  mapping entries clausesSteady value := by
    rw [matchValue]
    split
    · exact steady_throw _
    · exact steady_map _ (clausesSteady value)
    · exact steady_pure _
  clausesNil value := steady_pure []
  clausesCons key operand rest parts restSteady value := by
    rw [matchClauses_cons]
    refine steady_bind (steady_findHandler _) fun handler => ?_
    exact steady_cons (steady_applyHandler_of_parts parts value handler)
      (restSteady value)
  eachNil value := steady_pure []
  eachCons condition rest conditionSteady restSteady value := by
    rw [matchEach_cons]
    exact steady_cons (conditionSteady value) (restSteady value)
  fieldsNil document := steady_pure []
  fieldsCons key condition rest conditionSteady restSteady document := by
    rw [matchFields_cons]
    exact steady_cons (steady_applyField_of_condition conditionSteady document key)
      (restSteady document)

theorem steady_matchValue (value condition : Value) :
    (matchValue value condition).Steady :=
  steadiness_hereditary.condition condition value

theorem steady_matchClauses (value : Value) (clauses : List (Key × Value)) :
    (matchClauses value clauses).Steady :=
  steadiness_hereditary.clauses clauses value

theorem steady_matchEach (value : Value) (conditions : List Value) :
    (matchEach value conditions).Steady :=
  steadiness_hereditary.each conditions value

theorem steady_matchFields (document : Value) (query : List (Key × Value)) :
    (matchFields document query).Steady :=
  steadiness_hereditary.fields query document

theorem steady_applyQuery (entries : List (Key × Value)) (element : Value) :
    (applyQuery entries element).Steady :=
  steady_applyQuery_of_parts element (steadiness_hereditary.clauses entries)
    (steadiness_hereditary.fields entries)

theorem steady_applyHandler (value operand : Value) (handler : Handler) :
    (applyHandler value operand handler).Steady :=
  steady_applyHandler_of_parts (steadiness_hereditary.parts operand) value handler

theorem steady_applyField (document condition : Value) (key : Key) :
    (applyField document key condition).Steady :=
  steady_applyField_of_condition (steadiness_hereditary.condition condition)
    document key

end Steadiness

section Equations

open Evaluation

variable {setting : Setting}

theorem outcome_matchValue_mapping (value : Value) (entries : List (Key × Value)) :
    (matchValue value (.mapping entries)).outcome setting =
      match shapeOfEntries entries with
      | .mixed => .error (.mixedCondition (entries.map Prod.fst))
      | .operators => allOf <$> (matchClauses value entries).outcome setting
      | .plain => .ok (value.equal (.mapping entries)) := by
  rw [matchValue]
  cases shapeOfEntries entries with
  | operators => exact outcome_map _ (steady_matchClauses value entries)
  | _ => rfl

theorem outcome_matchClauses_cons (value : Value) (key : Key) (operand : Value)
    (rest : List (Key × Value)) :
    (matchClauses value ((key, operand) :: rest)).outcome setting = (do
      let handler ← knownHandler setting key.label
      return (← (applyHandler value operand handler).outcome setting) ::
        (← (matchClauses value rest).outcome setting)) := by
  have restSteady := steady_matchClauses value rest
  rw [matchClauses_cons,
    outcome_bind (steady_findHandler _) fun handler =>
      steady_cons (steady_applyHandler value operand handler) restSteady,
    outcome_findHandler]
  congr 1
  funext handler
  exact outcome_cons (steady_applyHandler value operand handler) restSteady

theorem outcome_matchEach_cons (value condition : Value) (rest : List Value) :
    (matchEach value (condition :: rest)).outcome setting = (do
      return (← (matchValue value condition).outcome setting) ::
        (← (matchEach value rest).outcome setting)) := by
  rw [matchEach_cons]
  exact outcome_cons (steady_matchValue value condition)
    (steady_matchEach value rest)

theorem outcome_matchFields_cons (document : Value) (key : Key)
    (condition : Value) (rest : List (Key × Value)) :
    (matchFields document ((key, condition) :: rest)).outcome setting = (do
      return (← (applyField document key condition).outcome setting) ::
        (← (matchFields document rest).outcome setting)) := by
  rw [matchFields_cons]
  exact outcome_cons (steady_applyField document condition key)
    (steady_matchFields document rest)

theorem outcome_matchAbsent (operand : Value) :
    (matchAbsent operand).outcome setting = not <$> flag operand := by
  rw [matchAbsent, outcome_bind (steady_ofExcept _) fun _ => steady_pure _]
  rfl

theorem outcome_applyField_text (document : Value) (path : String)
    (condition : Value) :
    (applyField document (.text path) condition).outcome setting =
      match resolve document path with
      | .found value => (matchValue value condition).outcome setting
      | .missing _ =>
          match presence? condition with
          | some operand => not <$> flag operand
          | none => .ok false := by
  simp only [applyField]
  split
  · rfl
  · split
    · exact outcome_matchAbsent _
    · rfl

theorem outcome_conjunction (value operand : Value) :
    (applyHandler value operand (.known .conjunction)).outcome setting =
      match operand.items? with
      | some conditions => allOf <$> (matchEach value conditions).outcome setting
      | none => .ok false := by
  simp only [applyHandler]
  split
  · exact outcome_map _ (steady_matchEach value _)
  · rfl

theorem outcome_disjunction (value operand : Value) :
    (applyHandler value operand (.known .disjunction)).outcome setting =
      match operand.items? with
      | some conditions => anyOf <$> (matchEach value conditions).outcome setting
      | none => .ok false := by
  simp only [applyHandler]
  split
  · exact outcome_map _ (steady_matchEach value _)
  · rfl

theorem outcome_negation (value operand : Value) :
    (applyHandler value operand (.known .negation)).outcome setting =
      match operand with
      | .mapping (_ :: _) => not <$> (matchValue value operand).outcome setting
      | _ => .ok false := by
  simp only [applyHandler]
  split
  · exact outcome_map _ (steady_matchValue value _)
  · rfl

theorem outcome_element (value operand : Value) :
    (applyHandler value operand (.known .element)).outcome setting =
      match operand with
      | .mapping [] => .error (.queryExpected .object)
      | .mapping entries =>
          match shapeOfEntries entries, value.items? with
          | .mixed, _ => .error .mixedQuery
          | _, none => .ok false
          | _, some elements =>
              anyOf <$> elements.mapM fun element =>
                (applyQuery entries element).outcome setting
      | other => .error (.queryExpected other.kind) := by
  simp only [applyHandler, applyElement]
  split
  · rfl
  · rename_i entries _
    split
    · rfl
    · rfl
    · have steady (elements : List Value) :
          ∀ element ∈ elements, (applyQuery entries element).Steady :=
        fun element _ => steady_applyQuery entries element
      rw [outcome_map _ (steady_mapM (steady _)), outcome_mapM (steady _)]
  · rfl

/-- What a clause yields by itself. -/
def clauseOutcome (setting : Setting) (value : Value) (clause : Key × Value) :
    Except Fault Bool := do
  let handler ← knownHandler setting clause.1.label
  (applyHandler value clause.2 handler).outcome setting

theorem outcome_matchClauses (value : Value) (clauses : List (Key × Value)) :
    (matchClauses value clauses).outcome setting =
      clauses.mapM (clauseOutcome setting value) := by
  induction clauses with
  | nil => rfl
  | cons clause rest induction =>
      obtain ⟨key, operand⟩ := clause
      rw [outcome_matchClauses_cons, List.mapM_cons, ← induction]
      unfold clauseOutcome
      cases knownHandler setting key.label <;> rfl

theorem outcome_matchClauses_single (value : Value) (clause : Key × Value) :
    allOf <$> (matchClauses value [clause]).outcome setting =
      clauseOutcome setting value clause := by
  rw [outcome_matchClauses, List.mapM_cons]
  cases clauseOutcome setting value clause with
  | error fault => rfl
  | ok result => exact congrArg Except.ok (Bool.and_true result)

theorem outcome_matchEach (value : Value) (conditions : List Value) :
    (matchEach value conditions).outcome setting =
      conditions.mapM fun condition => (matchValue value condition).outcome setting := by
  induction conditions with
  | nil => rfl
  | cons condition rest induction =>
      rw [outcome_matchEach_cons, List.mapM_cons, ← induction]

theorem outcome_plain {operator : Operator} (value operand : Value)
    (notStructural : operator.family ≠ .structural)
    (notLogical : operator.family ≠ .logical) :
    (applyHandler value operand (.known operator)).outcome setting =
      (applyPlain operator value operand).outcome setting := by
  rw [applyHandler_plain notStructural notLogical]

end Equations

end Condition

end Criteria
