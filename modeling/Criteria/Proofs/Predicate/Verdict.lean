import Criteria.Predicate.Evaluation
import Criteria.Proofs.Condition.Answers

/-!
# Verdicts of predicates

The result of a predicate is a function of the setting, the document and the
predicate: it is not found without a query, incomplete if data are missing,
undetermined by the first of its fields with a fault, and determined by all of
its fields otherwise.
-/

namespace Criteria

namespace Condition

theorem presence?_eq_some_iff {condition operand : Value} :
    presence? condition = some operand ↔
      condition = .mapping [(.text "$exists", operand)] := by
  constructor
  · intro asked
    unfold presence? at asked
    split at asked
    · split at asked
      · next name _ same =>
          cases asked
          rw [same]
          rfl
      · cases asked
    · cases asked
  · rintro rfl
    rfl

end Condition

namespace Query

/-- What the condition of a field yields by itself. -/
def fieldOutcome (setting : Setting) (document : Value) (field : String × Value) :
    Except Fault Bool :=
  (matchField document field.1 field.2).outcome setting

/-- The fault that its condition ends in, if it does. -/
def fieldFault? (setting : Setting) (document : Value) (field : String × Value) :
    Option Fault :=
  Condition.faultOf (fieldOutcome setting document field)

/-- The path of the field leads nowhere, and its condition is not a question for
presence alone. -/
def lacksData (document : Value) (field : String × Value) : Bool :=
  (Path.follow (Path.segments field.1) document).isNone &&
    (Condition.presence? field.2).isNone

theorem lacksData_iff {document : Value} {field : String × Value} :
    lacksData document field = true ↔
      Path.follow (Path.segments field.1) document = none ∧
        ∀ operand, field.2 ≠ .mapping [(.text "$exists", operand)] := by
  simp [lacksData, Option.eq_none_iff_forall_ne_some,
    Condition.presence?_eq_some_iff]

theorem missingPaths_eq (document : Value) (fields : List (String × Value)) :
    missingPaths document fields =
      (fields.filter (lacksData document)).map Prod.fst := by
  induction fields with
  | nil => rfl
  | cons field fields induction =>
      have first : missingPaths document (field :: fields) =
          if lacksData document field then field.1 :: missingPaths document fields
          else missingPaths document fields := by
        obtain ⟨path, condition⟩ := field
        unfold missingPaths lacksData resolve
        rw [List.filterMap_cons]
        dsimp only
        cases Path.follow (Path.segments path) document <;>
          cases Condition.presence? condition <;> rfl
      rw [first, induction, List.filter_cons]
      split <;> rfl

theorem matchField_eq_applyField (document : Value) (path : String)
    (condition : Value) :
    matchField document path condition =
      Condition.applyField document (.text path) condition :=
  rfl

theorem fieldOutcome_of_found {setting : Setting} {document value : Value}
    {field : String × Value} (found : resolve document field.1 = .found value) :
    fieldOutcome setting document field =
      (Condition.matchValue value field.2).outcome setting := by
  simp only [fieldOutcome, matchField, found]

section Fields

open Condition (answer answer_cons answer_eq_error_iff answer_of_no_fault
  exists_answer_eq_error_iff faultOf_eq_none_iff faultOf_eq_some_iff holds
  map_answer)
open Evaluation

variable {setting : Setting} {document : Value}

theorem steady_matchField (document : Value) (path : String) (condition : Value) :
    (matchField document path condition).Steady :=
  Condition.steady_applyField document condition (.text path)

theorem steady_matchFields (document : Value) (fields : List (String × Value)) :
    (matchFields document fields).Steady := by
  induction fields with
  | nil => exact steady_pure true
  | cons field fields induction =>
      refine steady_bind (steady_matchField document field.1 field.2) fun outcome => ?_
      exact steady_bind induction fun others => steady_pure (outcome && others)

theorem outcome_matchFields_cons (field : String × Value)
    (fields : List (String × Value)) :
    (matchFields document (field :: fields)).outcome setting = (do
      let outcome ← fieldOutcome setting document field
      let others ← (matchFields document fields).outcome setting
      return outcome && others) := by
  have combineSteady (outcome : Bool) :
      (do return outcome && (← matchFields document fields) : Evaluation Bool).Steady :=
    steady_bind (steady_matchFields document fields) fun others =>
      steady_pure (outcome && others)
  rw [matchFields, outcome_bind (steady_matchField _ _ _) combineSteady]
  congr 1
  funext outcome
  rw [outcome_bind (steady_matchFields document fields) fun others =>
    steady_pure (outcome && others)]
  rfl

/-- No field is left out because another one has been decided. -/
theorem outcome_matchFields (fields : List (String × Value)) :
    (matchFields document fields).outcome setting =
      answer (fieldFault? setting document) fields
        (fields.all fun field => holds (fieldOutcome setting document field)) := by
  induction fields with
  | nil => rfl
  | cons field fields induction =>
      rw [outcome_matchFields_cons, induction, answer_cons, List.all_cons, fieldFault?]
      cases fieldOutcome setting document field with
      | error fault => rfl
      | ok outcome => exact map_answer (outcome && ·) fields _

theorem outcome_matchFields_eq_error {fields : List (String × Value)}
    (failing : ∃ field ∈ fields, ∃ fault,
      fieldOutcome setting document field = .error fault) :
    ∃ before field after fault, fields = before ++ field :: after ∧
      (∀ earlier ∈ before, ∃ matched,
        fieldOutcome setting document earlier = .ok matched) ∧
      fieldOutcome setting document field = .error fault ∧
      (matchFields document fields).outcome setting = .error fault := by
  rw [outcome_matchFields]
  obtain ⟨field, member, fault, failed⟩ := failing
  have faulty : fieldFault? setting document field ≠ none := by
    rw [fieldFault?, failed]
    exact Option.some_ne_none fault
  obtain ⟨first, answered⟩ :=
    exists_answer_eq_error_iff.mpr ⟨field, member, faulty⟩
  obtain ⟨before, field, after, split, sound, failed⟩ :=
    answer_eq_error_iff.mp answered
  exact ⟨before, field, after, first, split,
    fun earlier member => faultOf_eq_none_iff.mp (sound earlier member),
    faultOf_eq_some_iff.mp failed, answered⟩

theorem outcome_matchFields_eq_ok {fields : List (String × Value)}
    (sound : ∀ field ∈ fields, ∃ matched,
      fieldOutcome setting document field = .ok matched) :
    ∃ matched, (matchFields document fields).outcome setting = .ok matched ∧
      (matched = true ↔
        ∀ field ∈ fields, fieldOutcome setting document field = .ok true) := by
  have noFault : ∀ field ∈ fields, fieldFault? setting document field = none :=
    fun field member => faultOf_eq_none_iff.mpr (sound field member)
  rw [outcome_matchFields, answer_of_no_fault noFault]
  refine ⟨_, rfl, ?_⟩
  rw [List.all_eq_true]
  refine forall₂_congr fun field member => ?_
  obtain ⟨matched, outcome⟩ := sound field member
  rw [outcome]
  simp

theorem not_all_true_iff {fields : List (String × Value)}
    (sound : ∀ field ∈ fields, ∃ matched,
      fieldOutcome setting document field = .ok matched) :
    (¬ ∀ field ∈ fields, fieldOutcome setting document field = .ok true) ↔
      ∃ field ∈ fields, fieldOutcome setting document field = .ok false := by
  constructor
  · intro notAll
    obtain ⟨field, member, notTrue⟩ : ∃ field ∈ fields,
        fieldOutcome setting document field ≠ .ok true := by
      simpa using notAll
    obtain ⟨matched, outcome⟩ := sound field member
    cases matched with
    | true => exact absurd outcome notTrue
    | false => exact ⟨field, member, outcome⟩
  · rintro ⟨field, member, outcome⟩ all
    rw [all field member] at outcome
    cases outcome

end Fields

end Query

namespace Predicate

/-- The result of a predicate in a setting. -/
def resultIn (setting : Setting) (document : Value) (predicate : Predicate) :
    PredicateResult :=
  let fields := predicate.query.fields
  let missing := Query.missingPaths document fields
  if fields.isEmpty then .notFound predicate.id
  else if !missing.isEmpty then .missing predicate.id missing
  else
    match (Query.matchFields document fields).outcome setting with
    | .ok matched => .determined predicate.id matched
    | .error fault => .failed predicate.id fault.reason

variable {setting : Setting} {engine : Engine} {document : Value} {predicate : Predicate}

theorem resultIn_of_empty (empty : predicate.query.fields = []) :
    predicate.resultIn setting document = .notFound predicate.id := by
  simp [resultIn, empty]

theorem resultIn_of_missing (notEmpty : predicate.query.fields ≠ [])
    (incomplete : Query.missingPaths document predicate.query.fields ≠ []) :
    predicate.resultIn setting document =
      .missing predicate.id (Query.missingPaths document predicate.query.fields) := by
  simp [resultIn, notEmpty, incomplete]

theorem resultIn_of_complete (notEmpty : predicate.query.fields ≠ [])
    (complete : Query.missingPaths document predicate.query.fields = []) :
    predicate.resultIn setting document =
      match (Query.matchFields document predicate.query.fields).outcome setting with
      | .ok matched => .determined predicate.id matched
      | .error fault => .failed predicate.id fault.reason := by
  simp [resultIn, notEmpty, complete]

theorem resultIn_predicateId :
    (predicate.resultIn setting document).predicateId = predicate.id := by
  unfold resultIn
  dsimp only
  split
  · rfl
  · split
    · rfl
    · split <;> rfl

theorem evaluate_of_empty (empty : predicate.query.fields = []) :
    (evaluate document predicate).run engine =
      (⟨some (.notFound predicate.id), [.notFound predicate.id]⟩, engine) := by
  simp only [evaluate, empty]
  rfl

theorem evaluate_of_missing (notEmpty : predicate.query.fields ≠ [])
    (incomplete : Query.missingPaths document predicate.query.fields ≠ []) :
    (evaluate document predicate).run engine =
      (⟨some (.missing predicate.id (Query.missingPaths document predicate.query.fields)),
        [.missingData predicate.id (Query.missingPaths document predicate.query.fields)]⟩,
        engine) := by
  simp only [evaluate]
  rw [if_neg (by simpa using notEmpty), if_pos (by simpa using incomplete)]
  rfl

theorem evaluate_of_complete (notEmpty : predicate.query.fields ≠ [])
    (complete : Query.missingPaths document predicate.query.fields = []) :
    (evaluate document predicate).run engine =
      let run := (Query.matchFields document predicate.query.fields).run.run engine
      (verdictOf predicate.id run.1, run.2) := by
  simp only [evaluate, complete]
  rw [if_neg (by simpa using notEmpty)]
  rfl

/-- Evaluating a predicate never breaks down, yields its result in the setting of
the engine, and leaves an engine with the same setting. -/
theorem evaluate_result (serving : engine.Serves setting) :
    let run := (evaluate document predicate).run engine
    run.1.result = some (predicate.resultIn setting document) ∧ run.2.Serves setting := by
  intro run
  have steady := Query.steady_matchFields document predicate.query.fields
  by_cases empty : predicate.query.fields = []
  · have ran : run = _ := evaluate_of_empty empty
    rw [ran, resultIn_of_empty empty]
    exact ⟨rfl, serving⟩
  by_cases complete : Query.missingPaths document predicate.query.fields = []
  · have ran : run = _ := evaluate_of_complete empty complete
    rw [ran, resultIn_of_complete empty complete]
    refine ⟨?_, steady.serves serving⟩
    dsimp only
    rw [steady.result serving]
    cases (Query.matchFields document predicate.query.fields).outcome setting <;> rfl
  · have ran : run = _ := evaluate_of_missing empty complete
    rw [ran, resultIn_of_missing empty complete]
    exact ⟨rfl, serving⟩

theorem nodup_missingPaths (document : Value) (query : Query) :
    (Query.missingPaths document query.fields).Nodup := by
  rw [Query.missingPaths_eq]
  exact query.distinct.sublist (List.filter_sublist.map Prod.fst)

/-- Evaluating a predicate never breaks down.  Without a query it is not found;
if data are missing, their paths are all that is reported, and the engine stays
untouched; otherwise the first field with a fault gives the reason, also after
a field that does not match; and without any fault all fields decide. -/
theorem evaluate_verdict (serving : engine.Serves setting) (document : Value)
    (predicate : Predicate) :
    let run := (evaluate document predicate).run engine
    let fields := predicate.query.fields
    let missing := (fields.filter (Query.lacksData document)).map Prod.fst
    let outcome := Query.fieldOutcome setting document
    ∃ result, run.1.result = some result ∧
      (fields = [] →
        result = ⟨predicate.id, .undetermined, [],
          some "Predicate definition not found"⟩) ∧
      (fields ≠ [] → missing ≠ [] →
        result = ⟨predicate.id, .undetermined, missing, none⟩ ∧
          missing.Nodup ∧ run.2 = engine) ∧
      (fields ≠ [] → missing = [] →
        (∃ field ∈ fields, ∃ fault, outcome field = .error fault) →
        ∃ before field after fault, fields = before ++ field :: after ∧
          (∀ earlier ∈ before, ∃ matched, outcome earlier = .ok matched) ∧
          outcome field = .error fault ∧
          result = ⟨predicate.id, .undetermined, [], some fault.reason⟩ ∧
          ∀ cause, fault = .crash cause → result.failureReason =
            some ("Internal error during evaluation: " ++ cause.name)) ∧
      (fields ≠ [] → missing = [] →
        (∀ field ∈ fields, ∃ matched, outcome field = .ok matched) →
        ∃ state, result = ⟨predicate.id, state, [], none⟩ ∧
          (state = .matched ↔ ∀ field ∈ fields, outcome field = .ok true) ∧
          (state = .notMatched ↔ ∃ field ∈ fields, outcome field = .ok false)) := by
  intro run fields missing outcome
  have missingEq : Query.missingPaths document fields = missing :=
    Query.missingPaths_eq document fields
  refine ⟨predicate.resultIn setting document, (evaluate_result serving).1,
    ?_, ?_, ?_, ?_⟩
  · intro empty
    exact resultIn_of_empty empty
  · intro notEmpty incomplete
    rw [← missingEq] at incomplete ⊢
    exact ⟨resultIn_of_missing notEmpty incomplete,
      nodup_missingPaths document predicate.query,
      congrArg Prod.snd (evaluate_of_missing notEmpty incomplete)⟩
  · intro notEmpty complete failing
    obtain ⟨before, field, after, fault, split, sound, failed, result⟩ :=
      Query.outcome_matchFields_eq_error failing
    have resultEq : predicate.resultIn setting document = _ :=
      resultIn_of_complete notEmpty (missingEq.trans complete)
    rw [result] at resultEq
    refine ⟨before, field, after, fault, split, sound, failed, resultEq, ?_⟩
    rintro cause rfl
    rw [resultEq]
    rfl
  · intro notEmpty complete sound
    obtain ⟨matched, result, matchedIff⟩ := Query.outcome_matchFields_eq_ok sound
    have resultEq : predicate.resultIn setting document = _ :=
      resultIn_of_complete notEmpty (missingEq.trans complete)
    rw [result] at resultEq
    refine ⟨_, resultEq, ?_, ?_⟩
    · rw [← matchedIff]
      cases matched <;> simp
    · rw [← Query.not_all_true_iff sound, ← matchedIff]
      cases matched <;> simp

theorem evaluate_verdict_of_fault_after_false :
    let setting := Setting.known .standard default
    let document := Value.mapping [(.text "a", .text "x"), (.text "b", .null)]
    let near := Value.mapping [(.text "$near", .null)]
    let predicate : Predicate := ⟨"p", [("a", .text "y"), ("b", near)], by decide⟩
    setting.engine.Serves setting ∧
      ((evaluate document predicate).run setting.engine).1.result =
        some ⟨"p", .undetermined, [], some "Unknown operator: $near"⟩ := by
  intro setting document near predicate
  have serving := Engine.serves_engine setting
  obtain ⟨result, evaluated, -, -, failing, -⟩ :=
    evaluate_verdict serving document predicate
  have firstFalse : Query.fieldOutcome setting document ("a", .text "y") =
      .ok false := rfl
  have secondFails : Query.fieldOutcome setting document ("b", near) =
      .error (.unknownOperator "$near") := by
    have found : resolve document "b" = .found .null := rfl
    rw [Query.fieldOutcome_of_found found, Condition.outcome_matchValue]
    rfl
  have complete : (predicate.query.fields.filter
      (Query.lacksData document)).map Prod.fst = [] := by decide +kernel
  obtain ⟨before, field, after, fault, split, -, failed, rfl, -⟩ :=
    failing (List.cons_ne_nil _ _) complete
      ⟨_, List.mem_cons_of_mem _ List.mem_cons_self, _, secondFails⟩
  refine ⟨serving, evaluated.trans ?_⟩
  rcases before with _ | ⟨first, _ | ⟨second, _ | _⟩⟩ <;> cases split
  · cases firstFalse.symm.trans failed
  · cases secondFails.symm.trans failed
    rfl

end Predicate

end Criteria
