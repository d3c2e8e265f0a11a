import Criteria.Proofs.Condition.Refusals
import Criteria.Proofs.Predicate.Fields

/-!
# Queries of sub-documents

A query is asked of an element of a collection as a predicate is asked of a
document.  The two agree as long as no field lacks its data.  If one does, the
predicate is undetermined, whereas the element does not match, unless a field
that is decided ends in a fault.
-/

namespace Criteria

namespace Condition

theorem anyOf_eq_true_iff_of_mapM {items : List α} {step : α → Except Fault Bool}
    {answer : Bool} (answered : anyOf <$> items.mapM step = .ok answer) :
    answer = true ↔ ∃ item ∈ items, step item = .ok true := by
  induction items generalizing answer with
  | nil =>
      cases answered
      simp [anyOf]
  | cons item items induction =>
      rw [List.mapM_cons] at answered
      cases first : step item with
      | error fault =>
          rw [first] at answered
          cases answered
      | ok matched =>
          rw [first] at answered
          cases rest : items.mapM step with
          | error fault =>
              rw [rest] at answered
              cases answered
          | ok others =>
              rw [rest] at answered
              cases answered
              have later := @induction (anyOf others) (by rw [rest]; rfl)
              simp only [List.mem_cons, exists_eq_or_imp, first, ← later]
              simp [anyOf]

section Element

variable {setting : Setting} {query : Query}

theorem outcome_applyQuery_of_plain
    (plain : shapeOfEntries query.toEntries = .plain) (element : Value) :
    (applyQuery query.toEntries element).outcome setting =
      if element.entries?.isSome then (Query.matchFields element query.fields).outcome setting
      else .ok false := by
  rw [applyQuery, plain, Query.matchFields_eq]
  dsimp only
  cases element.entries?.isSome <;> rfl

/-- An element query that is answered is true if and only if one of the elements
is a mapping whose fields are decided to be true. -/
theorem element_eq_true_iff (notEmpty : query.fields ≠ [])
    (plain : shapeOfEntries query.toEntries = .plain) {value : Value}
    {elements : List Value} (collection : value.items? = some elements)
    {answer : Bool}
    (answered : (applyHandler value (.mapping query.toEntries)
      (.known .element)).outcome setting = .ok answer) :
    answer = true ↔ ∃ element ∈ elements, element.entries?.isSome ∧
      (Query.matchFields element query.fields).outcome setting = .ok true := by
  obtain ⟨entry, entries, split⟩ : ∃ entry entries, query.toEntries = entry :: entries :=
    List.exists_cons_of_ne_nil (by simpa [Query.toEntries] using notEmpty)
  rw [outcome_element] at answered
  simp only [split, collection] at answered
  rw [← split, plain] at answered
  rw [anyOf_eq_true_iff_of_mapM answered]
  refine exists_congr fun element => and_congr_right fun _ => ?_
  rw [outcome_applyQuery_of_plain plain]
  cases element.entries?.isSome <;> simp

/-- An element query asked on its own, in the full table. -/
theorem result_applyElement_known (names : CharacterNames) (present : Instant) (value : Value)
    {entries : List (Key × Value)} (notEmpty : entries ≠ [])
    (notMixed : shapeOfEntries entries ≠ .mixed) :
    let setting := Setting.known names present
    ((apply "$elemMatch" value (.mapping entries)).run.run setting.engine).1 =
      answer setting.fault?
        (nestedClauses setting value (.mapping entries) (.known .element))
        (handlerHolds setting value (.mapping entries) (.known .element)) :=
  (outcome_apply (Setting.handler?_known_name names present .element) _ _).trans
    (outcome_applyElement_of_query value notEmpty notMixed)

end Element

end Condition

namespace Predicate

open Query (fieldOutcome lacksData)

variable {setting : Setting} {document : Value} {predicate : Predicate}

/-- Without a field that lacks its data, the fields are all that is decided. -/
theorem resultIn_of_nothing_lacking (notEmpty : predicate.query.fields ≠ [])
    (complete : ∀ field ∈ predicate.query.fields, lacksData document field = false) :
    let direct := (Query.matchFields document predicate.query.fields).outcome setting
    let result := predicate.resultIn setting document
    (direct = .ok true ↔ result.state = .matched) ∧
    (direct = .ok false ↔ result.state = .notMatched) ∧
    ((∃ fault, direct = .error fault) ↔ result.state = .undetermined) ∧
    ∀ fault, direct = .error fault →
      result = ⟨predicate.id, .undetermined, [], some fault.reason⟩ := by
  dsimp only
  rw [resultIn_of_complete notEmpty (Query.missingPaths_eq_nil_iff.mpr complete)]
  cases (Query.matchFields document predicate.query.fields).outcome setting with
  | ok matched => cases matched <;> simp [PredicateResult.determined]
  | error fault => simp [PredicateResult.failed]

/-- If a field lacks its data, the others are decided all the same, and the first
fault among them is not hidden. -/
theorem outcome_matchFields_of_something_lacking {fields : List (String × Value)}
    (incomplete : ∃ field ∈ fields, lacksData document field = true) :
    let direct := (Query.matchFields document fields).outcome setting
    (direct = .ok false ∧
      ∀ field ∈ fields, ∃ matched, fieldOutcome setting document field = .ok matched) ∨
    ∃ before field after fault, fields = before ++ field :: after ∧
      (∀ earlier ∈ before, ∃ matched,
        fieldOutcome setting document earlier = .ok matched) ∧
      lacksData document field = false ∧
      fieldOutcome setting document field = .error fault ∧ direct = .error fault := by
  intro direct
  by_cases failing : ∃ field ∈ fields, ∃ fault,
      fieldOutcome setting document field = .error fault
  · obtain ⟨before, field, after, fault, split, sound, failed, outcome⟩ :=
      Query.outcome_matchFields_eq_error failing
    refine .inr ⟨before, field, after, fault, split, sound, ?_, failed, outcome⟩
    cases lacking : lacksData document field with
    | false => rfl
    | true =>
        rw [Query.fieldOutcome_of_lacking lacking] at failed
        cases failed
  · have sound : ∀ field ∈ fields, ∃ matched,
        fieldOutcome setting document field = .ok matched := by
      intro field member
      cases outcome : fieldOutcome setting document field with
      | ok matched => exact ⟨matched, rfl⟩
      | error fault => exact absurd ⟨field, member, fault, outcome⟩ failing
    obtain ⟨matched, outcome, -⟩ := Query.outcome_matchFields_eq_ok sound
    obtain ⟨field, member, lacking⟩ := incomplete
    have notTrue : direct ≠ .ok true :=
      Query.outcome_matchFields_of_lacking member lacking
    refine .inl ⟨?_, sound⟩
    cases matched with
    | false => exact outcome
    | true => exact absurd outcome notTrue

/-- A query says the same of a mapping, whether it is asked of it as of an element
or as of a document.  If no field lacks its data, the answer is the state of the
predicate and a fault is its reason.  If one does, the predicate is undetermined,
and the mapping does not match, unless another field ends in a fault.  An element
query that is answered is therefore true if and only if the predicate is matched on
one of the elements. -/
theorem matchDocument_agrees_with_evaluate {engine : Engine}
    (serving : engine.Serves setting) (predicate : Predicate)
    (notEmpty : predicate.query.fields ≠ []) :
    let query := Value.mapping predicate.query.toEntries
    let fields := predicate.query.fields
    let resultOn (document : Value) :=
      ((evaluate document predicate).run engine).1.result
    (∀ entries,
      let document := Value.mapping entries
      let outcome := fieldOutcome setting document
      let direct := ((Condition.matchDocument document query).run.run engine).1
      ∃ result, resultOn document = some result ∧
        ((∀ field ∈ fields, lacksData document field = false) →
          (direct = .ok true ↔ result.state = .matched) ∧
          (direct = .ok false ↔ result.state = .notMatched) ∧
          ((∃ fault, direct = .error fault) ↔ result.state = .undetermined) ∧
          ∀ fault, direct = .error fault →
            result = ⟨predicate.id, .undetermined, [], some fault.reason⟩ ∧
            ∀ cause, fault = .crash cause → result.failureReason =
              some ("Internal error during evaluation: " ++ cause.name)) ∧
        ((∃ field ∈ fields, lacksData document field = true) →
          result.state = .undetermined ∧
          ((direct = .ok false ∧
              ∀ field ∈ fields, ∃ matched, outcome field = .ok matched) ∨
            ∃ before field after fault, fields = before ++ field :: after ∧
              (∀ earlier ∈ before, ∃ matched, outcome earlier = .ok matched) ∧
              lacksData document field = false ∧ outcome field = .error fault ∧
              direct = .error fault))) ∧
    (setting.handler? "$elemMatch" = some (.known .element) →
      Condition.shape query = .plain →
      ∀ value elements, value.items? = some elements →
      ∀ answer, ((Condition.apply "$elemMatch" value query).run.run engine).1 =
          .ok answer →
        (answer = true ↔ ∃ element ∈ elements, element.entries?.isSome ∧
          ∃ result, resultOn element = some result ∧ result.state = .matched)) := by
  intro query fields resultOn
  have resultEq (document : Value) :
      resultOn document = some (predicate.resultIn setting document) :=
    (evaluate_result serving).1
  refine ⟨fun entries => ?_, fun found plain value elements collection answer answered => ?_⟩
  · intro document outcome direct
    have directEq : direct = (Query.matchFields document fields).outcome setting := by
      have sameEvaluation : Condition.matchDocument document query =
          Query.matchFields document fields := Query.matchDocument_eq entries _
      rw [← (Query.steady_matchFields document fields).result serving, ← sameEvaluation]
    refine ⟨_, resultEq document, fun complete => ?_, fun incomplete => ?_⟩
    · obtain ⟨whenTrue, whenFalse, whenFault, reason⟩ :=
        @resultIn_of_nothing_lacking setting document predicate notEmpty complete
      rw [directEq]
      refine ⟨whenTrue, whenFalse, whenFault, fun fault failed => ?_⟩
      have result := reason fault failed
      refine ⟨result, ?_⟩
      rintro cause rfl
      rw [result]
      rfl
    · obtain ⟨field, member, lacking⟩ := incomplete
      refine ⟨state_resultIn_of_missing member lacking, ?_⟩
      rw [directEq]
      exact outcome_matchFields_of_something_lacking ⟨field, member, lacking⟩
  · rw [(Condition.steady_apply _ value query).result serving,
      Condition.outcome_apply found] at answered
    rw [Condition.element_eq_true_iff notEmpty plain collection answered]
    refine exists_congr fun element => and_congr_right fun _ => and_congr_right fun _ => ?_
    rw [← state_resultIn_eq_matched_iff notEmpty, resultEq]
    simp

theorem matchDocument_agrees_with_evaluate_of_elements :
    let engine := (Setting.known .standard default).engine
    let condition := Value.mapping [(.text "$startsWith", .text "x")]
    let predicate : Predicate := ⟨"p", [("b", condition)], by decide⟩
    let entries := [(Key.text "b", condition)]
    let elements := [.integer 5, .mapping [(.text "b", .text "xy")]]
    let resultOn (document : Value) :=
      ((evaluate document predicate).run engine).1.result
    engine.Serves (.known .standard default) ∧ predicate.query.fields ≠ [] ∧
      (∃ result, resultOn (.mapping []) = some result ∧ result.state = .undetermined) ∧
      ((Condition.apply "$elemMatch" (.list elements) (.mapping entries)).run.run
        engine).1 = .ok true ∧
      ∃ element ∈ elements, element.entries?.isSome ∧
        ∃ result, resultOn element = some result ∧ result.state = .matched := by
  intro engine condition predicate entries elements resultOn
  have serving : engine.Serves (.known .standard default) := Engine.serves_engine _
  have notEmpty : predicate.query.fields ≠ [] := List.cons_ne_nil _ _
  obtain ⟨onMappings, onElements⟩ :=
    matchDocument_agrees_with_evaluate serving predicate notEmpty
  have notMixed : Condition.shapeOfEntries entries ≠ .mixed := by decide
  have answered : ((Condition.apply "$elemMatch" (.list elements)
      (.mapping entries)).run.run engine).1 = .ok true :=
    Condition.result_applyElement_known .standard default _ (List.cons_ne_nil _ _) notMixed
  obtain ⟨result, evaluated, -, incomplete⟩ := onMappings []
  refine ⟨serving, notEmpty, ⟨result, evaluated, ?_⟩, answered, ?_⟩
  · exact (incomplete ⟨("b", condition), List.mem_cons_self, by decide⟩).1
  · exact (onElements (Setting.handler?_known_name .standard default .element) (by decide)
      _ _ rfl true answered).mp rfl

/-- A fault may come from a question for presence on a path that leads nowhere, and
an element query that applies operators is asked of elements of all kinds. -/
theorem matchDocument_fails_on_missing_path :
    let engine := (Setting.known .standard default).engine
    let presence := Value.mapping [(.text "$exists", .text "yes")]
    let query := Value.mapping [(.text "a", presence), (.text "b", .null)]
    let beginning := [(Key.text "$startsWith", Value.text "x")]
    (∀ path ∈ ["a", "b"], resolve (.mapping []) path = .missing path) ∧
      lacksData (.mapping []) ("b", .null) = true ∧
      ((Condition.matchDocument (.mapping []) query).run.run engine).1 =
        .error (.flagExpected .string) ∧
      ((Condition.apply "$elemMatch" (.list [.text "x"]) (.mapping beginning)).run.run
        engine).1 = .ok true ∧
      (Value.text "x").entries? = none := by
  intro engine presence query beginning
  have nowhere : ∀ path ∈ ["a", "b"], resolve (.mapping []) path = .missing path := by
    simp only [List.forall_mem_cons]
    exact ⟨rfl, rfl, List.forall_mem_nil _⟩
  have notMixed : Condition.shapeOfEntries beginning ≠ .mixed := by decide
  exact ⟨nowhere, rfl, rfl,
    Condition.result_applyElement_known .standard default _ (List.cons_ne_nil _ _) notMixed, rfl⟩

end Predicate

end Criteria
