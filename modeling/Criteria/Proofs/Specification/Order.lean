import Criteria.Proofs.Specification.Completeness

/-!
# The order of declarations

Groups and summaries read the declared results by name and by number.  The order
of the declarations shows in nothing but the order of the results, as long as the
first declaration of every name stays the first.
-/

namespace Criteria

theorem Summary.ofResults_perm {results others : List PredicateResult}
    (permuted : results.Perm others) :
    Summary.ofResults results = Summary.ofResults others := by
  simp only [ofResults, permuted.countP_eq]

namespace Specification

/-- The declarations of a name in their order. -/
def declarations (predicates : List Predicate) (id : String) : List Predicate :=
  predicates.filter fun predicate => predicate.id = id

/-- The same predicates in another order, those with one name in their own. -/
structure Reorders (predicates others : List Predicate) : Prop where
  permuted : predicates.Perm others
  declarations_eq : ∀ id, declarations predicates id = declarations others id

/-- The predicates with others between them, under names that are new. -/
def Extends (extended predicates : List Predicate) : Prop :=
  extended.filter (fun predicate => predicate.id ∈ predicates.map Predicate.id) =
    predicates

section Declared

variable {predicates others extended : List Predicate}

theorem find?_eq_head? (predicates : List Predicate) (id : String) :
    predicates.find? (fun predicate => predicate.id = id) =
      (declarations predicates id).head? :=
  List.head?_filter.symm

/-- Under a declared name, no declaration is added. -/
theorem Extends.declarations_eq (extension : Extends extended predicates) {id : String}
    (declared : id ∈ predicates.map Predicate.id) :
    declarations extended id = declarations predicates id := by
  conv_rhs => rw [← extension]
  rw [declarations, declarations, List.filter_filter]
  refine List.filter_congr fun predicate _ => ?_
  by_cases same : predicate.id = id <;> simp [same, declared]

/-- A name that no added predicate has stands for what it stood for. -/
theorem Extends.declarations_eq_of_unused (extension : Extends extended predicates)
    {id : String} (unused : ∀ predicate ∈ extended,
      predicate.id ∉ predicates.map Predicate.id → id ≠ predicate.id) :
    declarations extended id = declarations predicates id := by
  by_cases declared : id ∈ predicates.map Predicate.id
  · exact extension.declarations_eq declared
  · have nowhere : ∀ predicate ∈ predicates, predicate.id ≠ id := fun predicate member same =>
      declared (same ▸ List.mem_map_of_mem member)
    have notAdded : ∀ predicate ∈ extended, predicate.id ≠ id := fun predicate member same =>
      unused predicate member (same ▸ declared) same.symm
    rw [declarations, declarations, List.filter_eq_nil_iff.mpr (by simpa using notAdded),
      List.filter_eq_nil_iff.mpr (by simpa using nowhere)]

end Declared

section Results

variable {setting : Setting} {document : Value} {predicates others extended : List Predicate}

/-- What is found under a name depends on the declarations with this name alone. -/
theorem resultNamed?_declaredResults_congr {id : String}
    (same : declarations predicates id = declarations others id) :
    resultNamed? (declaredResults setting document predicates) id =
      resultNamed? (declaredResults setting document others) id := by
  rw [resultNamed?_declaredResults, resultNamed?_declaredResults, find?_eq_head?,
    find?_eq_head?, same]

theorem Reorders.declaredResults_perm (reorders : Reorders predicates others) :
    (declaredResults setting document predicates).Perm
      (declaredResults setting document others) :=
  perm_of_resultNamed?_eq (nodup_declaredResults setting document predicates)
    (nodup_declaredResults setting document others)
    fun id => resultNamed?_declaredResults_congr (reorders.declarations_eq id)

/-- Under the names that were declared before, the results stay as they were. -/
theorem Extends.filter_declaredResults (extension : Extends extended predicates) :
    (declaredResults setting document extended).filter
        (fun result => result.predicateId ∈ predicates.map Predicate.id) =
      declaredResults setting document predicates := by
  have kept := firstResults_filter (fun id => id ∈ predicates.map Predicate.id) []
    (extended.map fun predicate => predicate.resultIn setting document)
  rw [declaredResults, ← kept, List.filter_map]
  simp only [Function.comp_def, Predicate.resultIn_predicateId]
  rw [extension, declaredResults]

/-- A group depends on what is found under the names of its members alone. -/
theorem groupResult_congr {declared found : List PredicateResult}
    {result : Predicate → PredicateResult} {group : Group}
    (same : ∀ member ∈ group.members,
      resultNamed? declared member.id = resultNamed? found member.id) :
    groupResult declared result group = groupResult found result group := by
  unfold groupResult
  congr 1
  refine List.map_congr_left fun member inGroup => ?_
  rw [memberResult, memberResult, same member inGroup]

end Results

/-- The order of declarations shows in the order of the results alone.  Reordering
the predicates, but not those with one name, permutes their results; reordering
the groups permutes theirs, each with its own; and predicates whose names are
neither declared nor used by groups add nothing but their own results. -/
theorem evaluate_order_free {setting : Setting} {engine other : Engine}
    (serving : engine.Serves setting) (otherServing : other.Serves setting)
    (document : Value) (specification : Specification) :
    let outcome (engine : Engine) (specification : Specification) :=
      ((evaluate Predicate.evaluate document specification).run engine).1.outcome
    let original := outcome engine specification
    let names := specification.predicates.map Predicate.id
    (∀ predicates, Reorders predicates specification.predicates →
      let reordered := outcome other { specification with predicates }
      reordered.groupResults = original.groupResults ∧
      reordered.summary = original.summary ∧
      (∀ id, reordered.resultFor? id = original.resultFor? id) ∧
      reordered.predicateResults.Perm original.predicateResults) ∧
    (∀ groups, groups.Perm specification.groups →
      let reordered := outcome other { specification with groups }
      reordered.groupResults.length = groups.length ∧
      (groups.zip reordered.groupResults).Perm
        (specification.groups.zip original.groupResults) ∧
      reordered.groupResults.Perm original.groupResults ∧
      reordered.predicateResults = original.predicateResults ∧
      reordered.summary = original.summary) ∧
    (∀ predicates, Extends predicates specification.predicates →
      (∀ predicate ∈ predicates, predicate.id ∉ names →
        ∀ group ∈ specification.groups, ∀ member ∈ group.members,
          member.id ≠ predicate.id) →
      let extended := outcome other { specification with predicates }
      extended.groupResults = original.groupResults ∧
      (∀ id ∈ names, extended.resultFor? id = original.resultFor? id) ∧
      extended.predicateResults.filter (fun result => result.predicateId ∈ names) =
        original.predicateResults) := by
  intro outcome original names
  let result := fun predicate : Predicate => predicate.resultIn setting document
  let declared := declaredResults setting document specification.predicates
  have originalEq : original = ⟨specification.id, declared,
      specification.groups.map (groupResult declared result), .ofResults declared⟩ :=
    outcome_evaluate serving document specification
  have otherEq (changed : Specification) : outcome other changed = _ :=
    outcome_evaluate otherServing document changed
  have found {predicates : List Predicate} {id : String}
      (same : declarations predicates id = declarations specification.predicates id) :
      resultNamed? (declaredResults setting document predicates) id =
        resultNamed? declared id :=
    resultNamed?_declaredResults_congr same
  refine ⟨fun predicates reorders => ?_, fun groups permuted => ?_,
    fun predicates extension unused => ?_⟩
  · rw [originalEq, otherEq]
    refine ⟨List.map_congr_left fun group _ => ?_, ?_, fun id => found (reorders.declarations_eq id),
      reorders.declaredResults_perm⟩
    · exact groupResult_congr fun member _ => found (reorders.declarations_eq member.id)
    · exact Summary.ofResults_perm reorders.declaredResults_perm
  · rw [originalEq, otherEq]
    refine ⟨List.length_map _, ?_, permuted.map _, rfl, rfl⟩
    dsimp only
    rw [← List.map_prod_left_eq_zip, ← List.map_prod_left_eq_zip]
    exact permuted.map _
  · rw [originalEq, otherEq]
    refine ⟨List.map_congr_left fun group inGroups => ?_, fun id inNames => ?_, ?_⟩
    · refine groupResult_congr fun member inGroup => found ?_
      exact extension.declarations_eq_of_unused fun predicate added new =>
        unused predicate added new group inGroups member inGroup
    · exact found (extension.declarations_eq inNames)
    · exact extension.filter_declaredResults

theorem evaluate_order_free_of_repeated_name :
    let engine := (Setting.known .standard default).engine
    let document := Value.mapping [(.text "x", .null)]
    let first : Predicate := ⟨"a", [("x", .null)], by decide⟩
    let second : Predicate := ⟨"b", [("y", .null)], by decide⟩
    let repeated : Predicate := ⟨"a", .empty⟩
    let added : Predicate := ⟨"c", .empty⟩
    let group : Group := ⟨"g", .any, [repeated, second]⟩
    let specification : Specification := ⟨"s", [first, second, repeated], [group]⟩
    let reordered := [second, first, repeated]
    let extended := [first, added, second, repeated]
    let outcome (predicates : List Predicate) := ((evaluate Predicate.evaluate document
      { specification with predicates }).run engine).1.outcome
    engine.Serves (.known .standard default) ∧
      Reorders reordered specification.predicates ∧
      Extends extended specification.predicates ∧
      (outcome reordered).summary = (outcome specification.predicates).summary ∧
      (outcome extended).groupResults = (outcome specification.predicates).groupResults := by
  intro engine document first second repeated added group specification reordered
    extended outcome
  have serving : engine.Serves (.known .standard default) := Engine.serves_engine _
  have reorders : Reorders reordered specification.predicates := by
    refine ⟨.swap first second [repeated], fun id => ?_⟩
    by_cases same : "b" = id
    · subst same
      rfl
    · simp [declarations, reordered, specification, second, List.filter_cons, same]
  have extension : Extends extended specification.predicates := rfl
  have unused : ∀ predicate ∈ extended,
      predicate.id ∉ specification.predicates.map Predicate.id →
      ∀ group ∈ specification.groups, ∀ member ∈ group.members,
        member.id ≠ predicate.id := by decide
  obtain ⟨onReordering, -, onExtension⟩ :=
    evaluate_order_free serving serving document specification
  exact ⟨serving, reorders, extension, (onReordering reordered reorders).2.1,
    (onExtension extended extension unused).1⟩

end Specification

end Criteria
