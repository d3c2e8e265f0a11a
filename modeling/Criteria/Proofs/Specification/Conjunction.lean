import Criteria.Proofs.Predicate.Fields
import Criteria.Proofs.Specification.Completeness

/-!
# Conjunctions of predicates

Predicates about different fields can be put together in two ways: as the members
of a group, or as one predicate that has the fields of all of them.  Both say the
same, and what the one predicate reports is what its parts report.
-/

namespace Criteria

namespace Query

/-- No path occurs in both queries. -/
def Apart (query other : Query) : Prop :=
  ∀ path ∈ query.fields.map Prod.fst, path ∉ other.fields.map Prod.fst

/-- The fields of queries, one query after the other. -/
def concat (queries : List Query) (apart : queries.Pairwise Apart) : Query where
  fields := queries.flatMap fields
  distinct := by
    rw [List.map_flatMap]
    refine List.pairwise_flatMap.mpr ⟨fun query _ => query.distinct, ?_⟩
    refine apart.imp fun disjoint path member other otherMember same => ?_
    exact disjoint path member (same ▸ otherMember)

end Query

namespace Predicate

variable {setting : Setting} {document : Value} {whole : Predicate}
variable {parts : List Predicate}

/-- The predicate has the fields of the parts, each of which has some. -/
structure Joins (whole : Predicate) (parts : List Predicate) : Prop where
  fields_eq : whole.query.fields = parts.flatMap fun part => part.query.fields
  notEmpty : parts ≠ []
  partsNotEmpty : ∀ part ∈ parts, part.query.fields ≠ []

namespace Joins

theorem fields_ne_nil (joins : whole.Joins parts) : whole.query.fields ≠ [] := by
  obtain ⟨part, member⟩ := List.exists_mem_of_ne_nil parts joins.notEmpty
  obtain ⟨field, inPart⟩ := List.exists_mem_of_ne_nil _ (joins.partsNotEmpty part member)
  rw [joins.fields_eq]
  exact List.ne_nil_of_mem (List.mem_flatMap.mpr ⟨part, member, inPart⟩)

theorem missingPaths_eq (joins : whole.Joins parts) :
    (whole.resultIn setting document).missingPaths =
      parts.flatMap fun part => (part.resultIn setting document).missingPaths := by
  simp only [missingPaths_resultIn, joins.fields_eq]
  exact List.filterMap_flatMap

theorem matched_iff (joins : whole.Joins parts) :
    (whole.resultIn setting document).state = .matched ↔
      ∀ part ∈ parts, (part.resultIn setting document).state = .matched := by
  rw [state_resultIn_eq_matched_iff joins.fields_ne_nil,
    Query.outcome_matchFields_eq_true_iff, joins.fields_eq, List.forall_mem_flatMap]
  refine forall₂_congr fun part member => ?_
  rw [state_resultIn_eq_matched_iff (joins.partsNotEmpty part member),
    Query.outcome_matchFields_eq_true_iff]

theorem undetermined_iff (joins : whole.Joins parts) :
    (whole.resultIn setting document).state = .undetermined ↔
      ∃ part ∈ parts, (part.resultIn setting document).state = .undetermined := by
  rw [state_resultIn_eq_undetermined_iff joins.fields_ne_nil, joins.fields_eq]
  simp only [List.mem_flatMap]
  constructor
  · rintro ⟨field, ⟨part, member, inPart⟩, undecided⟩
    exact ⟨part, member, (state_resultIn_eq_undetermined_iff
      (joins.partsNotEmpty part member)).mpr ⟨field, inPart, undecided⟩⟩
  · rintro ⟨part, member, undetermined⟩
    obtain ⟨field, inPart, undecided⟩ := (state_resultIn_eq_undetermined_iff
      (joins.partsNotEmpty part member)).mp undetermined
    exact ⟨field, ⟨part, member, inPart⟩, undecided⟩

theorem failureReason_eq (joins : whole.Joins parts)
    (complete : ∀ part ∈ parts, (part.resultIn setting document).missingPaths = []) :
    (whole.resultIn setting document).failureReason =
      parts.findSome? fun part => (part.resultIn setting document).failureReason := by
  have wholeComplete : (whole.resultIn setting document).missingPaths = [] := by
    rw [joins.missingPaths_eq]
    exact List.flatMap_eq_nil_iff.mpr complete
  rw [missingPaths_resultIn] at wholeComplete
  rw [failureReason_resultIn joins.fields_ne_nil wholeComplete, joins.fields_eq,
    List.map_findSome?]
  refine Condition.findSome?_flatMap fun part member => ?_
  have partComplete := complete part member
  rw [missingPaths_resultIn] at partComplete
  rw [failureReason_resultIn (joins.partsNotEmpty part member) partComplete,
    List.map_findSome?]

end Joins

end Predicate

namespace Specification

variable {setting : Setting} {document : Value}

/-- Members take the results that are declared under their names. -/
theorem map_memberResult_of_declared {declared : List PredicateResult}
    {result : Predicate → PredicateResult} {parts members : List Predicate}
    (named : members.map Predicate.id = parts.map Predicate.id)
    (found : ∀ part ∈ parts, resultNamed? declared part.id = some (result part)) :
    members.map (memberResult declared result) = parts.map result := by
  induction parts generalizing members with
  | nil => rw [List.map_eq_nil_iff.mp named, List.map_nil, List.map_nil]
  | cons part parts induction =>
      obtain ⟨member, others, rfl, sameName, otherNames⟩ := List.map_eq_cons_iff.mp named
      obtain ⟨here, later⟩ := List.forall_mem_cons.mp found
      rw [List.map_cons, List.map_cons, induction otherNames later, memberResult,
        sameName, here, Option.getD_some]

/-- A conjunction means the same at every level.  If predicates about different
fields are declared together with one predicate that has the fields of all of them,
a conjunction of the former is matched if and only if the latter is.  It is
undetermined if and only if one of its parts is; it lacks what they lack; and unless
something is missing, its reason is the first that they have. -/
theorem evaluate_conjunction {engine : Engine} (serving : engine.Serves setting)
    (document : Value) (specification : Specification) {parts : List Predicate}
    (notEmpty : parts ≠ []) (partsNotEmpty : ∀ part ∈ parts, part.query.fields ≠ [])
    (apart : (parts.map Predicate.query).Pairwise Query.Apart) {whole : Predicate}
    (concatenated : whole.query = .concat (parts.map Predicate.query) apart)
    (declared : ∀ predicate ∈ whole :: parts,
      (specification.predicates.find? fun other => other.id = predicate.id) =
        some predicate)
    {index : Nat} {group : Group} (listed : specification.groups[index]? = some group)
    (conjunction : group.junction = .all)
    (members : group.members.map Predicate.id = parts.map Predicate.id) :
    let outcome :=
      ((evaluate Predicate.evaluate document specification).run engine).1.outcome
    ∃ result : Predicate → PredicateResult, ∃ combined,
      (∀ predicate ∈ whole :: parts,
        outcome.resultFor? predicate.id = some (result predicate)) ∧
      outcome.groupResults[index]? = some combined ∧
      (combined.matched = true ↔ (result whole).state = .matched) ∧
      ((result whole).state = .undetermined ↔
        ∃ part ∈ parts, (result part).state = .undetermined) ∧
      (result whole).missingPaths = parts.flatMap (fun part => (result part).missingPaths) ∧
      ((∀ part ∈ parts, (result part).missingPaths = []) →
        (result whole).failureReason =
          parts.findSome? fun part => (result part).failureReason) := by
  intro outcome
  let result := fun predicate : Predicate => predicate.resultIn setting document
  let results := declaredResults setting document specification.predicates
  have joins : whole.Joins parts := by
    refine ⟨?_, notEmpty, partsNotEmpty⟩
    rw [concatenated]
    exact List.flatMap_map _ _ _
  have outcomeEq : outcome = ⟨specification.id, results,
      specification.groups.map (groupResult results result), .ofResults results⟩ :=
    outcome_evaluate serving document specification
  have found : ∀ predicate ∈ whole :: parts,
      resultNamed? results predicate.id = some (result predicate) := by
    intro predicate member
    have lookUp := resultNamed?_declaredResults setting document
      specification.predicates predicate.id
    rw [declared predicate member] at lookUp
    exact lookUp
  obtain ⟨-, partsFound⟩ := List.forall_mem_cons.mp found
  -- The queries of the members play no part, since their names are declared.
  have groupEq : groupResult results result group =
      .ofMembers group (parts.map result) := by
    rw [groupResult, map_memberResult_of_declared members partsFound]
  refine ⟨result, groupResult results result group, ?_, ?_, ?_, joins.undetermined_iff,
    joins.missingPaths_eq, joins.failureReason_eq⟩
  · rw [outcomeEq]
    exact found
  · rw [outcomeEq]
    simp [listed]
  · rw [groupEq, matched_ofMembers_all conjunction, List.forall_mem_map]
    exact joins.matched_iff.symm

theorem evaluate_conjunction_of_fault_and_missing_path :
    let engine := (Setting.known .standard default).engine
    let document := Value.mapping [(.text "a", .text "x")]
    let size := Value.mapping [(.text "$size", .text "x")]
    let first : Predicate := ⟨"f", [("a", size)], by decide⟩
    let second : Predicate := ⟨"s", [("b", .null)], by decide⟩
    let whole : Predicate := ⟨"w", [("a", size), ("b", .null)], by decide⟩
    let group : Group := ⟨"g", .all, [⟨"f", .empty⟩, second]⟩
    let specification : Specification := ⟨"d", [second, whole, first], [group]⟩
    let outcome :=
      ((evaluate Predicate.evaluate document specification).run engine).1.outcome
    engine.Serves (.known .standard default) ∧
      (∃ apart, whole.query = .concat [first.query, second.query] apart) ∧
      (∀ predicate ∈ [whole, first, second], (specification.predicates.find?
        fun other => other.id = predicate.id) = some predicate) ∧
      outcome.resultFor? "w" = some ⟨"w", .undetermined, ["b"], none⟩ ∧
      ∃ combined, outcome.groupResults[0]? = some combined ∧
        combined.matched = false := by
  intro engine document size first second whole group specification outcome
  have serving : engine.Serves (.known .standard default) := Engine.serves_engine _
  have apart : [first.query, second.query].Pairwise Query.Apart :=
    List.pairwise_pair.mpr (by unfold Query.Apart; decide)
  have concatenated : whole.query = .concat [first.query, second.query] apart := rfl
  have declared : ∀ predicate ∈ [whole, first, second], (specification.predicates.find?
      fun other => other.id = predicate.id) = some predicate := by
    simp only [List.forall_mem_cons]
    exact ⟨rfl, rfl, rfl, List.forall_mem_nil _⟩
  have partsNotEmpty : ∀ part ∈ [first, second], part.query.fields ≠ [] := by
    simp only [List.forall_mem_cons]
    exact ⟨List.cons_ne_nil _ _, List.cons_ne_nil _ _, List.forall_mem_nil _⟩
  have listed : specification.groups[0]? = some group := rfl
  obtain ⟨result, combined, found, grouped, same, -⟩ :=
    evaluate_conjunction serving document specification (List.cons_ne_nil first [second])
      partsNotEmpty apart concatenated declared listed rfl rfl
  have wholeResult : outcome.resultFor? "w" = some ⟨"w", .undetermined, ["b"], none⟩ := by
    decide +kernel
  have undetermined : result whole = _ :=
    Option.some.inj ((found whole List.mem_cons_self).symm.trans wholeResult)
  refine ⟨serving, ⟨apart, concatenated⟩, declared, wholeResult, combined, grouped, ?_⟩
  rw [undetermined] at same
  simpa using same

end Specification

end Criteria
