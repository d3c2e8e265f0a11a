import Criteria.Proofs.Condition.Reordering
import Criteria.Proofs.Predicate.Verdict

/-!
# Rewritten predicates

A predicate that is written in another order, at any depth of its query, is in
the same state after its evaluation, and lacks the same data.  The one thing that
may differ is the reason of a fault, which is that of the first one.
-/

namespace Criteria

namespace Query

/-- A field of a query whose condition is written in another order. -/
def FieldRewritten (field other : String × Value) : Prop :=
  field.1 = other.1 ∧ Condition.Rewritten field.2 other.2

open Condition Evaluation

variable {names : CharacterNames} {present : Instant}
variable {document : Value} {field other : String × Value}
  {fields middle others : List (String × Value)}

theorem lacksData_of_rewritten (rewritten : FieldRewritten field other) :
    lacksData document field = lacksData document other := by
  obtain ⟨samePath, conditionRewritten⟩ := rewritten
  unfold lacksData
  rw [samePath]
  rcases conditionRewritten.presence? with
    ⟨none, otherNone⟩ | ⟨operand, otherOperand, asked, otherAsked, -⟩
  · rw [none, otherNone]
  · rw [asked, otherAsked]
    rfl

theorem missingPaths_of_rewritten (each : List.Forall₂ FieldRewritten fields middle)
    (document : Value) : missingPaths document fields = missingPaths document middle := by
  rw [missingPaths_eq, missingPaths_eq]
  induction each with
  | nil => rfl
  | cons head tail induction =>
      rw [List.filter_cons, List.filter_cons, lacksData_of_rewritten head]
      split
      · rw [List.map_cons, List.map_cons, head.1, induction]
      · exact induction

theorem missingPaths_perm (permuted : middle.Perm others) (document : Value) :
    (missingPaths document middle).Perm (missingPaths document others) := by
  rw [missingPaths_eq, missingPaths_eq]
  exact (permuted.filter _).map Prod.fst

theorem decision_matchField_of_rewritten (rewritten : FieldRewritten field other)
    (wellFormed : field.2.WellFormed) (document : Value) :
    (matchField document field.1 field.2).decision (.known names present) =
      (matchField document other.1 other.2).decision (.known names present) := by
  rw [matchField_eq_applyField, matchField_eq_applyField, ← rewritten.1]
  exact decision_applyField_of_condition
    ((unmoved_hereditary names present).condition field.2) rewritten.2 wellFormed document _

theorem decision_matchFields (setting : Setting) (document : Value)
    (fields : List (String × Value)) :
    (matchFields document fields).decision setting =
      allOf <$> fields.mapM fun field =>
        (matchField document field.1 field.2).decision setting := by
  unfold decision
  induction fields with
  | nil => rfl
  | cons field fields induction =>
      rw [outcome_matchFields_cons, List.mapM_cons]
      unfold fieldOutcome
      generalize (matchFields document fields).outcome setting = rest at induction ⊢
      generalize (fields.mapM fun field =>
        ((matchField document field.1 field.2).outcome setting).toOption) = decisions
        at induction ⊢
      cases (matchField document field.1 field.2).outcome setting with
      | error fault => rfl
      | ok matched => cases rest <;> cases decisions <;> cases induction <;> rfl

theorem decision_matchFields_of_rewritten
    (each : List.Forall₂ FieldRewritten fields middle) (permuted : middle.Perm others)
    (wellFormed : ∀ field ∈ fields, field.2.WellFormed) (document : Value) :
    (matchFields document fields).decision (.known names present) =
      (matchFields document others).decision (.known names present) := by
  rw [decision_matchFields, decision_matchFields,
    mapM_congr each fun field member other rewritten =>
      decision_matchField_of_rewritten rewritten (wellFormed field member) document]
  exact map_mapM_perm orderFree_allOf permuted _

end Query

namespace Predicate

/-- A predicate whose query is written in another order. -/
structure Rewritten (predicate other : Predicate) : Prop where
  id_eq : predicate.id = other.id
  fields : ∃ middle, List.Forall₂ Query.FieldRewritten predicate.query.fields middle ∧
    middle.Perm other.query.fields

theorem resultIn_of_rewritten {names : CharacterNames} {present : Instant}
    {predicate other : Predicate} (rewritten : predicate.Rewritten other)
    (wellFormed : ∀ field ∈ predicate.query.fields, field.2.WellFormed)
    (document : Value) :
    let result := predicate.resultIn (.known names present) document
    let changed := other.resultIn (.known names present) document
    result.predicateId = changed.predicateId ∧ result.state = changed.state ∧
      result.missingPaths.Perm changed.missingPaths ∧
      result.failureReason.isSome = changed.failureReason.isSome := by
  intro result changed
  obtain ⟨sameId, middle, each, permuted⟩ := rewritten
  have sameLength := each.length_eq.trans permuted.length_eq
  have missingPermuted : (Query.missingPaths document predicate.query.fields).Perm
      (Query.missingPaths document other.query.fields) := by
    rw [Query.missingPaths_of_rewritten each]
    exact Query.missingPaths_perm permuted document
  have sameDecision : (Query.matchFields document predicate.query.fields).decision
        (.known names present) =
      (Query.matchFields document other.query.fields).decision (.known names present) :=
    Query.decision_matchFields_of_rewritten each permuted wellFormed document
  refine ⟨resultIn_predicateId.trans (sameId.trans resultIn_predicateId.symm), ?_⟩
  by_cases empty : predicate.query.fields = []
  · have otherEmpty : other.query.fields = [] := by
      rw [empty] at sameLength
      exact List.length_eq_zero_iff.mp sameLength.symm
    have resultEq : result = _ := resultIn_of_empty empty
    have changedEq : changed = _ := resultIn_of_empty otherEmpty
    rw [resultEq, changedEq]
    exact ⟨rfl, .refl _, rfl⟩
  have otherNotEmpty : other.query.fields ≠ [] := by
    intro otherEmpty
    rw [otherEmpty] at sameLength
    exact empty (List.length_eq_zero_iff.mp sameLength)
  by_cases complete : Query.missingPaths document predicate.query.fields = []
  · have otherComplete : Query.missingPaths document other.query.fields = [] := by
      rw [complete] at missingPermuted
      exact List.nil_perm.mp missingPermuted
    have resultEq : result = _ := resultIn_of_complete empty complete
    have changedEq : changed = _ := resultIn_of_complete otherNotEmpty otherComplete
    rw [resultEq, changedEq]
    unfold Evaluation.decision at sameDecision
    cases first : (Query.matchFields document predicate.query.fields).outcome _ <;>
      cases second : (Query.matchFields document other.query.fields).outcome _ <;>
      rw [first, second] at sameDecision <;> cases sameDecision <;>
      exact ⟨rfl, .refl _, rfl⟩
  · have otherIncomplete : Query.missingPaths document other.query.fields ≠ [] := by
      intro otherComplete
      rw [otherComplete] at missingPermuted
      exact complete (List.perm_nil.mp missingPermuted)
    have resultEq : result = _ := resultIn_of_missing empty complete
    have changedEq : changed = _ := resultIn_of_missing otherNotEmpty otherIncomplete
    rw [resultEq, changedEq]
    exact ⟨rfl, missingPermuted, rfl⟩

/-- The order in which a predicate of known operators is written, at any depth,
does not matter: on any document the result is in the same state, lacks the same
data, and has a failure reason or none, on whatever engines the two versions are
evaluated. -/
theorem evaluate_of_rewritten {names : CharacterNames} {present : Instant}
    {engine later : Engine} (serving : engine.Serves (.known names present))
    (laterServing : later.Serves (.known names present)) {predicate other : Predicate}
    (rewritten : predicate.Rewritten other)
    (wellFormed : ∀ field ∈ predicate.query.fields, field.2.WellFormed)
    (document : Value) :
    ∃ result changed,
      ((evaluate document predicate).run engine).1.result = some result ∧
      ((evaluate document other).run later).1.result = some changed ∧
      result.predicateId = changed.predicateId ∧ result.state = changed.state ∧
      result.missingPaths.Perm changed.missingPaths ∧
      result.failureReason.isSome = changed.failureReason.isSome :=
  ⟨_, _, (evaluate_result serving).1, (evaluate_result laterServing).1,
    resultIn_of_rewritten rewritten wellFormed document⟩

theorem evaluate_of_rewritten_options_and_alternatives :
    let setting := Setting.known .standard default
    let document := Value.mapping [(.text "a", .null), (.text "b", .integer 2)]
    let near := Value.mapping [(.text "$near", .null)]
    let two := Value.mapping [(.text "$eq", .integer 2)]
    let record := Value.mapping [(.text "x", .null), (.text "y", .boolean true)]
    let reordered := Value.mapping [(.text "y", .boolean true), (.text "x", .null)]
    let predicate : Predicate := ⟨"p", [("a", .mapping [(.text "$ne", .text "z"),
      (.text "$in", .list [record, .null])]),
      ("b", .mapping [(.text "$or", .list [near, two])])], by decide⟩
    let other : Predicate := ⟨"p", [("b", .mapping [(.text "$or", .list [two, near])]),
      ("a", .mapping [(.text "$in", .list [.null, reordered]),
        (.text "$ne", .text "z")])], by decide⟩
    setting.engine.Serves setting ∧ predicate.Rewritten other ∧
      (∀ field ∈ predicate.query.fields, field.2.WellFormed) ∧
      ((evaluate document predicate).run setting.engine).1.result.map
          PredicateResult.state =
        ((evaluate document other).run setting.engine).1.result.map
          PredicateResult.state := by
  intro setting document near two record reordered predicate other
  have serving := Engine.serves_engine setting
  have recordReordered : record.Reordered reordered :=
    .mapping (List.forall₂_same.mpr fun _ _ => .entry _ (.same _)) (.swap _ _ _)
  have options : Condition.OperandRewritten (some .isIn) (.list [record, .null])
      (.list [.null, reordered]) :=
    .options (by decide) rfl (.cons recordReordered (.cons (.same _) .nil))
      (.swap _ _ _) rfl
  have alternatives : Condition.OperandRewritten (some .disjunction)
      (.list [near, two]) (.list [two, near]) :=
    .conditions (by decide) rfl
      (.cons (.data (.same near)) (.cons (.data (.same two)) .nil)) (.swap _ _ _) rfl
  have rewritten : predicate.Rewritten other := by
    refine ⟨rfl, other.query.fields.reverse, .cons ⟨rfl, ?_⟩ (.cons ⟨rfl, ?_⟩ .nil),
      .swap _ _ _⟩
    · exact .operators rfl
        (.cons (.clause _ (.data (.same _))) (.cons (.clause _ options) .nil))
        (.swap _ _ _)
    · exact .operators rfl (.cons (.clause _ alternatives) .nil) (.refl _)
  have wellFormed : ∀ field ∈ predicate.query.fields, field.2.WellFormed := by
    simp [predicate, near, two, record, Value.WellFormed, Value.EntriesWellFormed,
      Value.AllWellFormed, Entries.DistinctKeys, Key.same, Value.integer]
  obtain ⟨result, changed, evaluated, otherEvaluated, -, sameState, -⟩ :=
    evaluate_of_rewritten serving serving rewritten wellFormed document
  refine ⟨serving, rewritten, wellFormed, ?_⟩
  rw [evaluated, otherEvaluated]
  exact congrArg some sameState

end Predicate

end Criteria
