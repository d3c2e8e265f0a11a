import Criteria.Proofs.Condition.Congruence
import Criteria.Proofs.Predicate.Verdict

/-!
# Predicates on equal data

A predicate of known operators does not tell documents apart in which every path
of its query leads to equal values, or to nothing in both.
-/

namespace Criteria

namespace Query

variable {setting : Setting} {document other : Value}

theorem lacksData_congr {field : String × Value}
    (agree : Path.Agree (Path.segments field.1) document other) :
    lacksData document field = lacksData other field := by
  unfold lacksData
  rcases agree with ⟨missing, otherMissing⟩ | ⟨value, last, found, otherFound, -⟩
  · rw [missing, otherMissing]
  · rw [found, otherFound]
    rfl

theorem missingPaths_congr {fields : List (String × Value)}
    (agree : ∀ field ∈ fields, Path.Agree (Path.segments field.1) document other) :
    missingPaths document fields = missingPaths other fields := by
  rw [missingPaths_eq, missingPaths_eq,
    List.filter_congr fun field member => lacksData_congr (agree field member)]

theorem fieldOutcome_congr (onlyKnown : setting.OnlyKnown)
    (wellFormed : document.WellFormed) {field : String × Value}
    (agree : Path.Agree (Path.segments field.1) document other) :
    fieldOutcome setting document field = fieldOutcome setting other field := by
  unfold fieldOutcome
  rw [matchField_eq_applyField, matchField_eq_applyField,
    Condition.outcome_applyField_text, Condition.outcome_applyField_text]
  unfold resolve
  rcases agree with ⟨missing, otherMissing⟩ | ⟨value, last, found, otherFound, equal⟩
  · rw [missing, otherMissing]
  · rw [found, otherFound]
    exact Condition.outcome_matchValue_congr onlyKnown
      (Path.wellFormed_of_follow wellFormed found) equal field.2

theorem outcome_matchFields_congr {fields : List (String × Value)}
    (same : ∀ field ∈ fields,
      fieldOutcome setting document field = fieldOutcome setting other field) :
    (matchFields document fields).outcome setting =
      (matchFields other fields).outcome setting := by
  induction fields with
  | nil => rfl
  | cons field fields induction =>
      rw [outcome_matchFields_cons, outcome_matchFields_cons,
        same field List.mem_cons_self,
        induction fun later member => same later (List.mem_cons_of_mem field member)]

end Query

namespace Predicate

theorem resultIn_congr {setting : Setting} (onlyKnown : setting.OnlyKnown)
    {document other : Value} (wellFormed : document.WellFormed)
    {predicate : Predicate}
    (agree : ∀ field ∈ predicate.query.fields,
      Path.Agree (Path.segments field.1) document other) :
    predicate.resultIn setting document = predicate.resultIn setting other := by
  unfold resultIn
  dsimp only
  rw [Query.missingPaths_congr agree,
    Query.outcome_matchFields_congr fun field member =>
      Query.fieldOutcome_congr onlyKnown wellFormed (agree field member)]

/-- Equal data cannot be told apart by any predicate of known operators, neither
by its state nor by the missing paths or the reason that it reports, on whatever
engines the two documents are evaluated. -/
theorem evaluate_indistinguishable {names : CharacterNames} {present : Instant}
    {engine later : Engine} (serving : engine.Serves (.known names present))
    (laterServing : later.Serves (.known names present)) {document other : Value}
    (wellFormed : document.WellFormed) (predicate : Predicate)
    (agree : ∀ field ∈ predicate.query.fields,
      Path.Agree (Path.segments field.1) document other) :
    ∃ result, ((evaluate document predicate).run engine).1.result = some result ∧
      ((evaluate other predicate).run later).1.result = some result := by
  have same := resultIn_congr (Setting.onlyKnown_known names present) wellFormed agree
  refine ⟨predicate.resultIn (.known names present) document,
    (evaluate_result serving).1, ?_⟩
  rw [same]
  exact (evaluate_result laterServing).1

theorem evaluate_indistinguishable_of_reordered_entries :
    let setting := Setting.known .standard default
    let document := Value.mapping [(.text "a", .mapping
      [(.text "x", .null), (.text "y", .list [.boolean true])])]
    let other := Value.mapping [(.text "b", .null), (.text "a", .mapping
      [(.text "y", .tuple [.boolean true]), (.text "x", .null)])]
    let predicate : Predicate :=
      ⟨"p", [("a", .mapping [(.text "$type", .text "array")])], by decide⟩
    setting.engine.Serves setting ∧ document.WellFormed ∧
      (∀ field ∈ predicate.query.fields,
        Path.Agree (Path.segments field.1) document other) ∧
      ((evaluate document predicate).run setting.engine).1.result =
        ((evaluate other predicate).run setting.engine).1.result := by
  intro setting document other predicate
  have serving := Engine.serves_engine setting
  have wellFormed : document.WellFormed := by
    simp [document, Value.WellFormed, Value.EntriesWellFormed,
      Value.AllWellFormed, Entries.DistinctKeys, Key.same]
  have agree : ∀ field ∈ predicate.query.fields,
      Path.Agree (Path.segments field.1) document other := by
    intro field member
    rw [List.mem_singleton.mp member]
    exact .inr ⟨_, _, rfl, rfl, rfl⟩
  obtain ⟨result, first, second⟩ :=
    evaluate_indistinguishable serving serving wellFormed predicate agree
  exact ⟨serving, wellFormed, agree, first.trans second.symm⟩

end Predicate

end Criteria
