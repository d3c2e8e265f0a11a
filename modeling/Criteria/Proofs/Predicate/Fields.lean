import Criteria.Proofs.Predicate.Verdict

/-!
# Fields of predicates

Deciding the fields of a query one after the other is deciding the query as a
mapping: the same clauses, the same engine afterwards, the same answer.  The
state of a predicate is read off this answer, since a field that lacks its data
never lets it be true.
-/

namespace Criteria

namespace Query

variable {setting : Setting} {document : Value} {field : String × Value}
variable {fields : List (String × Value)}

theorem matchFields_eq (document : Value) (fields : List (String × Value)) :
    matchFields document fields =
      Condition.allOf <$> Condition.matchFields document
        (fields.map fun field => (.text field.1, field.2)) := by
  induction fields with
  | nil => rfl
  | cons field fields induction =>
      rw [matchFields, List.map_cons, Condition.matchFields_cons,
        matchField_eq_applyField, induction]
      simp only [map_eq_pure_bind, bind_assoc, pure_bind]
      rfl

/-- A query is decided in the same way whether it stands for a predicate or for
the elements of a collection. -/
theorem matchDocument_eq (entries : List (Key × Value)) (query : Query) :
    Condition.matchDocument (.mapping entries) (.mapping query.toEntries) =
      matchFields (.mapping entries) query.fields :=
  (matchFields_eq (.mapping entries) query.fields).symm

/-- The first of all clauses that has a fault ends the query. -/
theorem outcome_matchFields_eq_answer (document : Value) (query : Query) :
    let entries := query.toEntries
    (matchFields document query.fields).outcome setting =
      Condition.answer setting.fault? (Condition.reachedFields setting document entries)
        (Condition.allOf (Condition.fieldTruths setting document entries)) := by
  intro entries
  rw [matchFields_eq, Evaluation.outcome_map _ (Condition.steady_matchFields document _),
    Condition.outcome_matchFields, Condition.map_answer]
  rfl

theorem fieldOutcome_of_lacking (lacking : lacksData document field = true) :
    fieldOutcome setting document field = .ok false := by
  obtain ⟨nowhere, notPresence⟩ := lacksData_iff.mp lacking
  have notAsked : Condition.presence? field.2 = none :=
    Option.eq_none_iff_forall_ne_some.mpr fun operand asked =>
      notPresence operand (Condition.presence?_eq_some_iff.mp asked)
  simp only [fieldOutcome, matchField, resolve, nowhere, notAsked]
  rfl

theorem missingPaths_eq_nil_iff :
    missingPaths document fields = [] ↔
      ∀ field ∈ fields, lacksData document field = false := by
  simp [missingPaths_eq, List.filter_eq_nil_iff]

theorem missingPaths_ne_nil_iff :
    missingPaths document fields ≠ [] ↔
      ∃ field ∈ fields, lacksData document field = true := by
  simp [missingPaths_eq_nil_iff]

theorem outcome_matchFields_eq_true_iff :
    (matchFields document fields).outcome setting = .ok true ↔
      ∀ field ∈ fields, fieldOutcome setting document field = .ok true := by
  induction fields with
  | nil => exact ⟨fun _ => List.forall_mem_nil _, fun _ => rfl⟩
  | cons field fields induction =>
      rw [outcome_matchFields_cons, List.forall_mem_cons, ← induction]
      cases fieldOutcome setting document field with
      | error fault => exact ⟨nofun, nofun⟩
      | ok matched =>
          cases (matchFields document fields).outcome setting with
          | error fault => exact ⟨nofun, nofun⟩
          | ok others =>
              change (Except.ok (matched && others) : Except Fault Bool) = _ ↔ _
              simp

theorem outcome_matchFields_of_lacking (member : field ∈ fields)
    (lacking : lacksData document field = true) :
    (matchFields document fields).outcome setting ≠ .ok true := by
  intro matched
  have holds := outcome_matchFields_eq_true_iff.mp matched field member
  rw [fieldOutcome_of_lacking lacking] at holds
  cases holds

end Query

namespace Predicate

variable {setting : Setting} {document : Value} {predicate : Predicate}
variable {field : String × Value}

theorem state_resultIn_of_missing (member : field ∈ predicate.query.fields)
    (lacking : Query.lacksData document field = true) :
    (predicate.resultIn setting document).state = .undetermined := by
  have incomplete := Query.missingPaths_ne_nil_iff.mpr ⟨field, member, lacking⟩
  rw [resultIn_of_missing (List.ne_nil_of_mem member) incomplete]
  rfl

theorem state_resultIn_of_fault (member : field ∈ predicate.query.fields) {fault : Fault}
    (failed : Query.fieldOutcome setting document field = .error fault) :
    (predicate.resultIn setting document).state = .undetermined := by
  have notEmpty := List.ne_nil_of_mem member
  by_cases complete : Query.missingPaths document predicate.query.fields = []
  · obtain ⟨-, -, -, first, -, -, -, outcome⟩ :=
      Query.outcome_matchFields_eq_error ⟨field, member, fault, failed⟩
    rw [resultIn_of_complete notEmpty complete, outcome]
    rfl
  · rw [resultIn_of_missing notEmpty complete]
    rfl

/-- A match needs no more than that the fields are decided to be true. -/
theorem state_resultIn_eq_matched_iff (notEmpty : predicate.query.fields ≠ []) :
    (predicate.resultIn setting document).state = .matched ↔
      (Query.matchFields document predicate.query.fields).outcome setting = .ok true := by
  by_cases complete : Query.missingPaths document predicate.query.fields = []
  · rw [resultIn_of_complete notEmpty complete]
    cases (Query.matchFields document predicate.query.fields).outcome setting with
    | error fault => exact ⟨nofun, nofun⟩
    | ok matched => cases matched <;> simp [PredicateResult.determined]
  · obtain ⟨field, member, lacking⟩ := Query.missingPaths_ne_nil_iff.mp complete
    rw [state_resultIn_of_missing member lacking]
    exact ⟨nofun, fun matched =>
      absurd matched (Query.outcome_matchFields_of_lacking member lacking)⟩

theorem missingPaths_resultIn :
    (predicate.resultIn setting document).missingPaths =
      Query.missingPaths document predicate.query.fields := by
  by_cases empty : predicate.query.fields = []
  · rw [resultIn_of_empty empty, empty]
    rfl
  by_cases complete : Query.missingPaths document predicate.query.fields = []
  · rw [resultIn_of_complete empty complete, complete]
    cases (Query.matchFields document predicate.query.fields).outcome setting <;> rfl
  · rw [resultIn_of_missing empty complete]
    rfl

/-- A predicate is undetermined for one of its fields. -/
theorem state_resultIn_eq_undetermined_iff (notEmpty : predicate.query.fields ≠ []) :
    (predicate.resultIn setting document).state = .undetermined ↔
      ∃ field ∈ predicate.query.fields, Query.lacksData document field = true ∨
        ∃ fault, Query.fieldOutcome setting document field = .error fault := by
  constructor
  · intro undetermined
    by_cases complete : Query.missingPaths document predicate.query.fields = []
    · rw [resultIn_of_complete notEmpty complete, Query.outcome_matchFields] at undetermined
      by_cases failing : ∃ field ∈ predicate.query.fields,
          Query.fieldFault? setting document field ≠ none
      · obtain ⟨field, member, fault⟩ := failing
        obtain ⟨fault, failed⟩ := Option.ne_none_iff_exists'.mp fault
        exact ⟨field, member, .inr ⟨fault, Condition.faultOf_eq_some_iff.mp failed⟩⟩
      · rw [Condition.answer_of_no_fault (by simpa using failing)] at undetermined
        revert undetermined
        cases predicate.query.fields.all _ <;> exact nofun
    · obtain ⟨field, member, lacking⟩ := Query.missingPaths_ne_nil_iff.mp complete
      exact ⟨field, member, .inl lacking⟩
  · rintro ⟨field, member, lacking | ⟨fault, failed⟩⟩
    · exact state_resultIn_of_missing member lacking
    · exact state_resultIn_of_fault member failed

/-- With all data at hand, the first fault of a field is the reason. -/
theorem failureReason_resultIn (notEmpty : predicate.query.fields ≠ [])
    (complete : Query.missingPaths document predicate.query.fields = []) :
    (predicate.resultIn setting document).failureReason =
      (predicate.query.fields.findSome? (Query.fieldFault? setting document)).map
        Fault.reason := by
  rw [resultIn_of_complete notEmpty complete, Query.outcome_matchFields, Condition.answer]
  cases predicate.query.fields.findSome? (Query.fieldFault? setting document) <;> rfl

end Predicate

end Criteria
