import Criteria.Proofs.Predicate.Fields

/-!
# Diagnoses

An evaluation that leaves its predicate undetermined reports this once, by an event
of the kind that the cause calls for, and it reports nothing else.
-/

namespace Criteria

namespace Predicate

/-- The event that tells why a predicate is undetermined: it has no query, or data
are missing, or else a field has a fault, of which the first is told. -/
def diagnosis? (setting : Setting) (document : Value) (predicate : Predicate) :
    Option Event :=
  let fields := predicate.query.fields
  let missing := Query.missingPaths document fields
  if fields.isEmpty then some (.notFound predicate.id)
  else if !missing.isEmpty then some (.missingData predicate.id missing)
  else
    (fields.findSome? (Query.fieldFault? setting document)).map (faultEvent predicate.id)

/-- The verdict on a predicate in a setting. -/
def verdictIn (setting : Setting) (document : Value) (predicate : Predicate) : Verdict :=
  ⟨some (predicate.resultIn setting document),
    (predicate.diagnosis? setting document).toList⟩

variable {setting : Setting} {engine : Engine} {document : Value} {predicate : Predicate}

theorem diagnosis?_of_empty (empty : predicate.query.fields = []) :
    predicate.diagnosis? setting document = some (.notFound predicate.id) := by
  simp [diagnosis?, empty]

theorem diagnosis?_of_missing (notEmpty : predicate.query.fields ≠ [])
    (incomplete : Query.missingPaths document predicate.query.fields ≠ []) :
    predicate.diagnosis? setting document = some (.missingData predicate.id
      (Query.missingPaths document predicate.query.fields)) := by
  simp [diagnosis?, notEmpty, incomplete]

theorem diagnosis?_of_complete (notEmpty : predicate.query.fields ≠ [])
    (complete : Query.missingPaths document predicate.query.fields = []) :
    predicate.diagnosis? setting document =
      (predicate.query.fields.findSome? (Query.fieldFault? setting document)).map
        (faultEvent predicate.id) := by
  simp [diagnosis?, notEmpty, complete]

/-- Only an undetermined predicate has a diagnosis. -/
theorem diagnosis?_eq_none_iff :
    predicate.diagnosis? setting document = none ↔
      (predicate.resultIn setting document).state ≠ .undetermined := by
  by_cases empty : predicate.query.fields = []
  · rw [diagnosis?_of_empty empty, resultIn_of_empty empty]
    exact iff_of_false (Option.some_ne_none _) fun determined => determined rfl
  by_cases complete : Query.missingPaths document predicate.query.fields = []
  · rw [diagnosis?_of_complete empty complete, resultIn_of_complete empty complete,
      Query.outcome_matchFields, Condition.answer]
    cases predicate.query.fields.findSome? (Query.fieldFault? setting document) with
    | none =>
        refine iff_of_true rfl ?_
        cases predicate.query.fields.all _
        · exact State.noConfusion
        · exact State.noConfusion
    | some fault =>
        exact iff_of_false (Option.some_ne_none _) fun determined => determined rfl
  · rw [diagnosis?_of_missing empty complete, resultIn_of_missing empty complete]
    exact iff_of_false (Option.some_ne_none _) fun determined => determined rfl

/-- Evaluating a predicate gives its verdict in the setting of the engine. -/
theorem evaluate_verdictIn (serving : engine.Serves setting) :
    ((evaluate document predicate).run engine).1 = predicate.verdictIn setting document := by
  have steady := Query.steady_matchFields document predicate.query.fields
  rw [verdictIn]
  by_cases empty : predicate.query.fields = []
  · rw [evaluate_of_empty empty, resultIn_of_empty empty, diagnosis?_of_empty empty]
    rfl
  by_cases complete : Query.missingPaths document predicate.query.fields = []
  · rw [evaluate_of_complete empty complete, resultIn_of_complete empty complete,
      diagnosis?_of_complete empty complete]
    dsimp only
    rw [steady.result serving, Query.outcome_matchFields, Condition.answer]
    cases predicate.query.fields.findSome? (Query.fieldFault? setting document) <;> rfl
  · rw [evaluate_of_missing empty complete, resultIn_of_missing empty complete,
      diagnosis?_of_missing empty complete]
    rfl

/-- The events tell the result: none if it is decided, and otherwise a single one, of
the kind that the cause calls for. -/
structure Diagnosed (setting : Setting) (document : Value) (predicate : Predicate)
    (result : PredicateResult) (events : List Event) : Prop where
  decided : result.state ≠ .undetermined → events = []
  undecided : result.state = .undetermined → ∃ event, events = [event]
  notFound : predicate.query.fields = [] → events = [.notFound predicate.id]
  missingData : result.missingPaths ≠ [] →
    events = [.missingData predicate.id result.missingPaths]
  faulty : predicate.query.fields ≠ [] → result.missingPaths = [] → ∀ fault,
    predicate.query.fields.findSome? (Query.fieldFault? setting document) = some fault →
    result.failureReason = some fault.reason ∧ events = [faultEvent predicate.id fault]

theorem diagnosed_resultIn (setting : Setting) (document : Value) (predicate : Predicate) :
    predicate.Diagnosed setting document (predicate.resultIn setting document)
      (predicate.diagnosis? setting document).toList where
  decided determined := by
    rw [diagnosis?_eq_none_iff.mpr determined]
    rfl
  undecided undetermined := by
    obtain ⟨event, told⟩ := Option.ne_none_iff_exists'.mp fun silent =>
      diagnosis?_eq_none_iff.mp silent undetermined
    exact ⟨event, by rw [told]; rfl⟩
  notFound empty := by
    rw [diagnosis?_of_empty empty]
    rfl
  missingData incomplete := by
    rw [missingPaths_resultIn] at incomplete ⊢
    have notEmpty : predicate.query.fields ≠ [] := by
      rintro empty
      rw [empty] at incomplete
      exact incomplete rfl
    rw [diagnosis?_of_missing notEmpty incomplete]
    rfl
  faulty notEmpty complete fault first := by
    rw [missingPaths_resultIn] at complete
    rw [failureReason_resultIn notEmpty complete, diagnosis?_of_complete notEmpty complete,
      first]
    exact ⟨rfl, rfl⟩

end Predicate

end Criteria
