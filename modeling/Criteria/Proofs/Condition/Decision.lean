import Criteria.Proofs.Condition.Outcome

/-!
# Decisions of conditions

What an evaluation decides, if it decides anything: its outcome, whatever the
fault is that it may end in.  A list of parts decides if each of them does, so
that a combination of results which does not look at their order does not depend
on the order of the parts.
-/

namespace Criteria

namespace Evaluation

/-- What an evaluation yields, unless it ends in a fault. -/
def decision (setting : Setting) (evaluation : Evaluation α) : Option α :=
  (evaluation.outcome setting).toOption

theorem toOption_map (function : α → β) (result : Except Fault α) :
    (function <$> result).toOption = function <$> result.toOption := by
  cases result <;> rfl

theorem toOption_cons (first : Except Fault α) (others : Except Fault (List α)) :
    (do return (← first) :: (← others) : Except Fault (List α)).toOption =
      (do return (← first.toOption) :: (← others.toOption)) := by
  cases first <;> cases others <;> rfl

theorem toOption_mapM (items : List α) (step : α → Except Fault β) :
    (items.mapM step).toOption = items.mapM fun item => (step item).toOption := by
  induction items with
  | nil => rfl
  | cons item items induction =>
      rw [List.mapM_cons, List.mapM_cons, toOption_cons, induction]

end Evaluation

namespace Condition

section Order

/-- A combination of results that does not look at their order. -/
def OrderFree (combine : List Bool → Bool) : Prop :=
  ∀ {results others : List Bool}, results.Perm others → combine results = combine others

theorem orderFree_allOf : OrderFree allOf :=
  fun permuted => permuted.all_eq

theorem orderFree_anyOf : OrderFree anyOf :=
  fun permuted => permuted.any_eq

theorem mapM_eq_filterMap (items : List α) (step : α → Option β) :
    items.mapM step =
      if items.all fun item => (step item).isSome then some (items.filterMap step)
      else none := by
  induction items with
  | nil => rfl
  | cons item items induction =>
      rw [List.mapM_cons, induction, List.all_cons, List.filterMap_cons]
      cases step item with
      | none => rfl
      | some result =>
          cases items.all fun item => (step item).isSome <;> rfl

theorem map_mapM_perm {combine : List Bool → Bool} (orderFree : OrderFree combine)
    {items others : List α} (permuted : items.Perm others) (step : α → Option Bool) :
    combine <$> items.mapM step = combine <$> others.mapM step := by
  rw [mapM_eq_filterMap, mapM_eq_filterMap, permuted.all_eq]
  split
  · exact congrArg some (orderFree (permuted.filterMap step))
  · rfl

end Order

section Equations

open Evaluation

variable {setting : Setting}

/-- What a clause decides, unless its operator is unknown. -/
def clauseDecision (setting : Setting) (value : Value) (clause : Key × Value) :
    Option Bool :=
  setting.handler? clause.1.label >>= fun handler =>
    (applyHandler value clause.2 handler).decision setting

theorem decision_matchValue_mapping (value : Value) (entries : List (Key × Value)) :
    (matchValue value (.mapping entries)).decision setting =
      match shapeOfEntries entries with
      | .mixed => none
      | .operators => allOf <$> (matchClauses value entries).decision setting
      | .plain => some (value.equal (.mapping entries)) := by
  unfold decision
  rw [outcome_matchValue_mapping]
  cases shapeOfEntries entries with
  | operators => exact toOption_map _ _
  | mixed | plain => rfl

theorem decision_matchClauses (value : Value) (clauses : List (Key × Value)) :
    (matchClauses value clauses).decision setting =
      clauses.mapM (clauseDecision setting value) := by
  have decided : clauseDecision setting value =
      fun clause => (clauseOutcome setting value clause).toOption := by
    funext clause
    unfold clauseDecision clauseOutcome knownHandler
    cases setting.handler? clause.1.label <;> rfl
  rw [decision, outcome_matchClauses, toOption_mapM, decided]

theorem decision_matchEach (value : Value) (conditions : List Value) :
    (matchEach value conditions).decision setting =
      conditions.mapM fun condition => (matchValue value condition).decision setting := by
  rw [decision, outcome_matchEach, toOption_mapM]
  rfl

theorem decision_matchFields (document : Value) (fields : List (Key × Value)) :
    (matchFields document fields).decision setting =
      fields.mapM fun field => (applyField document field.1 field.2).decision setting := by
  unfold decision
  induction fields with
  | nil => rfl
  | cons field rest induction =>
      obtain ⟨key, condition⟩ := field
      rw [outcome_matchFields_cons, List.mapM_cons, ← induction, toOption_cons]

theorem decision_conjunction (value operand : Value) :
    (applyHandler value operand (.known .conjunction)).decision setting =
      match operand.items? with
      | some conditions => allOf <$> (matchEach value conditions).decision setting
      | none => some false := by
  unfold decision
  rw [outcome_conjunction]
  cases operand.items? with
  | none => rfl
  | some conditions => exact toOption_map _ _

theorem decision_disjunction (value operand : Value) :
    (applyHandler value operand (.known .disjunction)).decision setting =
      match operand.items? with
      | some conditions => anyOf <$> (matchEach value conditions).decision setting
      | none => some false := by
  unfold decision
  rw [outcome_disjunction]
  cases operand.items? with
  | none => rfl
  | some conditions => exact toOption_map _ _

theorem decision_negation (value operand : Value) :
    (applyHandler value operand (.known .negation)).decision setting =
      match operand with
      | .mapping (_ :: _) => not <$> (matchValue value operand).decision setting
      | _ => some false := by
  unfold decision
  rw [outcome_negation]
  rcases operand with _ | _ | _ | _ | _ | _ | _ | _ | (_ | ⟨entry, entries⟩)
  case mapping.cons => exact toOption_map _ _
  all_goals rfl

theorem decision_applyQuery (entries : List (Key × Value)) (element : Value) :
    (applyQuery entries element).decision setting =
      match shapeOfEntries entries with
      | .operators => allOf <$> (matchClauses element entries).decision setting
      | _ =>
          if element.entries?.isSome then
            allOf <$> (matchFields element entries).decision setting
          else some false := by
  have ofFields :
      (if element.entries?.isSome then allOf <$> matchFields element entries
        else pure false : Evaluation Bool).decision setting =
      if element.entries?.isSome then
        allOf <$> (matchFields element entries).decision setting
      else some false := by
    unfold decision
    split
    · rw [outcome_map _ (steady_matchFields element entries), toOption_map]
    · rfl
  unfold applyQuery
  cases shapeOfEntries entries with
  | operators =>
      unfold decision
      rw [outcome_map _ (steady_matchClauses element entries), toOption_map]
  | plain | mixed => exact ofFields

theorem decision_element (value : Value) {entries : List (Key × Value)}
    (notEmpty : entries ≠ []) :
    (applyHandler value (.mapping entries) (.known .element)).decision setting =
      match shapeOfEntries entries, value.items? with
      | .mixed, _ => none
      | _, none => some false
      | _, some elements =>
          anyOf <$> elements.mapM fun element =>
            (applyQuery entries element).decision setting := by
  obtain ⟨entry, rest, rfl⟩ := List.exists_cons_of_ne_nil notEmpty
  have eachDecides (elements : List Value) :
      (anyOf <$> elements.mapM fun element =>
        (applyQuery (entry :: rest) element).outcome setting).toOption =
      anyOf <$> elements.mapM fun element =>
        (applyQuery (entry :: rest) element).decision setting := by
    rw [toOption_map, toOption_mapM]
    rfl
  unfold decision
  rw [outcome_element]
  dsimp only
  cases shapeOfEntries (entry :: rest) with
  | mixed => rfl
  | operators | plain =>
      cases value.items? with
      | none => rfl
      | some elements => exact eachDecides elements

theorem decision_applyField_text (document : Value) (path : String)
    (condition : Value) :
    (applyField document (.text path) condition).decision setting =
      match resolve document path with
      | .found value => (matchValue value condition).decision setting
      | .missing _ =>
          match presence? condition with
          | some operand => not <$> (flag operand).toOption
          | none => some false := by
  unfold decision
  rw [outcome_applyField_text]
  cases resolve document path with
  | found value => rfl
  | missing path =>
      cases presence? condition with
      | none => rfl
      | some operand => exact toOption_map _ _

end Equations

end Condition

end Criteria
