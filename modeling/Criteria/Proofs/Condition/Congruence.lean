import Criteria.Proofs.Condition.Outcome
import Criteria.Proofs.Operator.Congruence
import Criteria.Proofs.Value.Path

/-!
# Conditions on equal values

A condition that only applies known operators yields the same on equal values,
its faults included.
-/

namespace Criteria

namespace Setting

/-- No name of the table stands for an added operator. -/
def OnlyKnown (setting : Setting) : Prop :=
  ∀ name handler, setting.handler? name = some handler →
    ∃ operator, handler = .known operator

theorem onlyKnown_known (names : CharacterNames) (present : Instant) :
    (known names present).OnlyKnown := by
  intro name handler found
  obtain ⟨definition, definitionFound, rfl⟩ := Option.map_eq_some_iff.mp found
  obtain ⟨operator, -, rfl⟩ :=
    List.mem_map.mp (List.mem_of_find?_eq_some definitionFound)
  exact ⟨operator, rfl⟩

end Setting

namespace Condition

section Plain

open Evaluation

variable {setting : Setting} {left right : Value}

theorem matchesPattern_congr (equal : left.equal right = true) (operand : Value) :
    matchesPattern left operand = matchesPattern right operand := by
  rcases Value.eq_or_no_text equal with rfl | ⟨noText, otherNoText⟩
  · rfl
  · have unmatched {value : Value} (noText : ∀ text, value ≠ .text text)
        (pattern : String) : matchesPattern value (.text pattern) = (do
          let _ ← getPattern pattern
          return false) := by
      cases value with
      | text text => exact absurd rfl (noText text)
      | _ => rfl
    cases operand with
    | text pattern => rw [unmatched noText, unmatched otherNoText]
    | _ => rfl

theorem hasKind_congr (equal : left.equal right = true) (operand : Value) :
    hasKind left operand = hasKind right operand := by
  unfold hasKind
  rw [Value.kind_eq_of_equal equal]

theorem applyPlain_congr (wellFormed : left.WellFormed)
    (equal : left.equal right = true) (operator : Operator) (operand : Value) :
    applyPlain operator left operand = applyPlain operator right operand := by
  cases operator with
  | equal | notEqual =>
      simp only [applyPlain, Value.equal_congr_left wellFormed equal]
  | greater =>
      exact congrArg ofExcept
        (Value.compareBy_congr equal _ (Value.less_congr equal operand).2)
  | greaterOrEqual =>
      exact congrArg ofExcept
        (Value.compareBy_congr equal _ (Value.lessOrEqual_congr equal operand).2)
  | less =>
      exact congrArg ofExcept
        (Value.compareBy_congr equal _ (Value.less_congr equal operand).1)
  | lessOrEqual =>
      exact congrArg ofExcept
        (Value.compareBy_congr equal _ (Value.lessOrEqual_congr equal operand).1)
  | isIn => exact congrArg ofExcept (Value.isIn_congr wellFormed equal operand)
  | isNotIn => exact congrArg ofExcept (Value.isNotIn_congr wellFormed equal operand)
  | containsAll =>
      exact congrArg ofExcept (Value.containsAll_congr wellFormed equal operand)
  | size => exact congrArg ofExcept (Value.hasSize_congr equal operand)
  | kind => exact congrArg ofExcept (hasKind_congr equal operand)
  | regex => exact matchesPattern_congr equal operand
  | between => exact congrArg pure (Value.isBetween_congr equal operand)
  | dateBefore =>
      simp only [applyPlain, Value.isBefore, Value.compareMoments_congr equal]
  | dateAfter =>
      simp only [applyPlain, Value.isAfter, Value.compareMoments_congr equal]
  | contains =>
      exact congrArg pure (Value.containsPart_congr wellFormed equal operand)
  | startsWith => exact congrArg pure (Value.startsWith_congr equal operand)
  | endsWith => exact congrArg pure (Value.endsWith_congr equal operand)
  | present | element | conjunction | disjunction | negation => rfl

end Plain

section Parts

open Evaluation

variable {setting : Setting} {left right : Value}

/-- Each list of parts yields the same on equal values. -/
def respecting (setting : Setting) : Motive where
  condition condition := ∀ left right, left.WellFormed → left.equal right = true →
    (matchValue left condition).outcome setting =
      (matchValue right condition).outcome setting
  clauses clauses := ∀ left right, left.WellFormed → left.equal right = true →
    (matchClauses left clauses).outcome setting =
      (matchClauses right clauses).outcome setting
  each conditions := ∀ left right, left.WellFormed → left.equal right = true →
    (matchEach left conditions).outcome setting =
      (matchEach right conditions).outcome setting
  fields fields := ∀ left right, left.WellFormed → left.equal right = true →
    (matchFields left fields).outcome setting =
      (matchFields right fields).outcome setting

theorem mapM_congr {m : Type → Type} [Monad m] [LawfulMonad m] {β : Type}
    {related : α → α → Prop} {items others : List α} {step : α → m β}
    (each : List.Forall₂ related items others)
    (agree : ∀ item ∈ items, ∀ other, related item other → step item = step other) :
    items.mapM step = others.mapM step := by
  induction each with
  | nil => rfl
  | cons head tail induction =>
      rw [List.mapM_cons, List.mapM_cons, agree _ List.mem_cons_self _ head,
        induction fun item later => agree item (List.mem_cons_of_mem _ later)]

theorem isSome_entries?_congr (equal : left.equal right = true) :
    left.entries?.isSome = right.entries?.isSome := by
  cases Value.equal_iff_alike.mp equal with
  | collection held otherHeld each =>
      have none {value : Value} {items : List Value}
          (held : value.items? = some items) : value.entries? = none := by
        cases value <;> first | rfl | cases held
      rw [none held, none otherHeld]
  | _ => rfl

theorem outcome_applyQuery_congr_of_parts {entries : List (Key × Value)}
    (clausesRespect : (respecting setting).clauses entries)
    (fieldsRespect : (respecting setting).fields entries)
    (wellFormed : left.WellFormed) (equal : left.equal right = true) :
    (applyQuery entries left).outcome setting =
      (applyQuery entries right).outcome setting := by
  have clausesEqual := clausesRespect left right wellFormed equal
  have fieldsEqual := fieldsRespect left right wellFormed equal
  unfold applyQuery
  split
  · rw [outcome_map _ (steady_matchClauses left entries),
      outcome_map _ (steady_matchClauses right entries), clausesEqual]
  · rw [isSome_entries?_congr equal]
    split
    · rw [outcome_map _ (steady_matchFields left entries),
        outcome_map _ (steady_matchFields right entries), fieldsEqual]
    · rfl

theorem outcome_applyHandler_congr_of_parts {operand : Value}
    (parts : (respecting setting).Parts operand) (wellFormed : left.WellFormed)
    (equal : left.equal right = true) (operator : Operator) :
    (applyHandler left operand (.known operator)).outcome setting =
      (applyHandler right operand (.known operator)).outcome setting := by
  cases operator with
  | conjunction =>
      rw [outcome_conjunction, outcome_conjunction]
      split
      · rw [parts.each _ ‹_› left right wellFormed equal]
      · rfl
  | disjunction =>
      rw [outcome_disjunction, outcome_disjunction]
      split
      · rw [parts.each _ ‹_› left right wellFormed equal]
      · rfl
  | negation =>
      rw [outcome_negation, outcome_negation]
      split
      · rw [parts.condition left right wellFormed equal]
      · rfl
  | element =>
      rw [outcome_element, outcome_element]
      split
      · rfl
      · rename_i entries _
        rcases Value.items?_of_equal equal with
          ⟨none, otherNone⟩ | ⟨items, others, held, otherHeld, each⟩
        · rw [none, otherNone]
        · have sameResults := mapM_congr each fun item member other itemEqual =>
            outcome_applyQuery_congr_of_parts (parts.clauses entries rfl)
              (parts.fields entries rfl)
              (Value.wellFormed_of_mem_items wellFormed held member) itemEqual
          rw [held, otherHeld]
          cases shapeOfEntries entries with
          | mixed => rfl
          | operators | plain => exact congrArg (anyOf <$> ·) sameResults
      · rfl
  | _ =>
      rw [outcome_plain left operand (by decide) (by decide),
        outcome_plain right operand (by decide) (by decide),
        applyPlain_congr wellFormed equal]

theorem outcome_applyField_congr_of_condition {condition : Value}
    (respects : (respecting setting).condition condition)
    (wellFormed : left.WellFormed) (equal : left.equal right = true) (key : Key) :
    (applyField left key condition).outcome setting =
      (applyField right key condition).outcome setting := by
  cases key with
  | text path =>
      rw [outcome_applyField_text, outcome_applyField_text]
      unfold resolve
      rcases Path.agree_of_equal (Path.segments path) wellFormed equal with
        ⟨missing, otherMissing⟩ | ⟨value, other, found, otherFound, valueEqual⟩
      · rw [missing, otherMissing]
      · rw [found, otherFound]
        exact respects value other
          (Path.wellFormed_of_follow wellFormed found) valueEqual
  | _ => rfl

theorem respecting_hereditary (onlyKnown : setting.OnlyKnown) :
    (respecting setting).Hereditary where
  atom condition noMapping left right wellFormed equal := by
    have equality (value : Value) : (matchValue value condition).outcome setting =
        .ok (value.equal condition) := by
      cases condition with
      | mapping entries => cases noMapping
      | _ => rfl
    rw [equality, equality, Value.equal_congr_left wellFormed equal]
  mapping entries clausesRespect left right wellFormed equal := by
    rw [outcome_matchValue_mapping, outcome_matchValue_mapping,
      clausesRespect left right wellFormed equal,
      Value.equal_congr_left wellFormed equal]
  clausesNil left right wellFormed equal := rfl
  clausesCons key operand rest parts restRespects left right wellFormed equal := by
    rw [outcome_matchClauses_cons, outcome_matchClauses_cons,
      restRespects left right wellFormed equal]
    unfold knownHandler
    cases found : setting.handler? key.label with
    | none => rfl
    | some handler =>
        obtain ⟨operator, rfl⟩ := onlyKnown _ _ found
        exact congrArg
          (fun outcome : Except Fault Bool => do
            return (← outcome) :: (← (matchClauses right rest).outcome setting))
          (outcome_applyHandler_congr_of_parts parts wellFormed equal operator)
  eachNil left right wellFormed equal := rfl
  eachCons condition rest respects restRespects left right wellFormed equal := by
    rw [outcome_matchEach_cons, outcome_matchEach_cons,
      respects left right wellFormed equal, restRespects left right wellFormed equal]
  fieldsNil left right wellFormed equal := rfl
  fieldsCons key condition rest respects restRespects left right wellFormed equal := by
    rw [outcome_matchFields_cons, outcome_matchFields_cons,
      outcome_applyField_congr_of_condition respects wellFormed equal,
      restRespects left right wellFormed equal]

theorem outcome_matchValue_congr (onlyKnown : setting.OnlyKnown)
    (wellFormed : left.WellFormed) (equal : left.equal right = true)
    (condition : Value) :
    (matchValue left condition).outcome setting =
      (matchValue right condition).outcome setting :=
  (respecting_hereditary onlyKnown).condition condition left right wellFormed equal

end Parts

end Condition

end Criteria
