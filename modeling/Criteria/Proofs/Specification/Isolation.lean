import Criteria.Proofs.Specification.Completeness

/-!
# Isolation of breakdowns

Two runs of one specification: in the second the evaluator breaks down on some
names.  The runs differ only in the results under these names and in the groups
with a member of such a name, and no group is matched in the second run that is
not matched in the first.
-/

namespace Criteria

namespace PredicateResult

variable {ids : List String} {result : PredicateResult}

/-- What becomes of a result when the evaluator breaks down on some names. -/
def underBreakdown (ids : List String) (result : PredicateResult) : PredicateResult :=
  if result.predicateId ∈ ids then
    ⟨result.predicateId, .undetermined, [], some "Internal error during evaluation"⟩
  else result

theorem underBreakdown_of_mem (broken : result.predicateId ∈ ids) :
    result.underBreakdown ids =
      ⟨result.predicateId, .undetermined, [], some "Internal error during evaluation"⟩ :=
  if_pos broken

theorem underBreakdown_of_not_mem (spared : result.predicateId ∉ ids) :
    result.underBreakdown ids = result :=
  if_neg spared

theorem predicateId_underBreakdown (ids : List String) (result : PredicateResult) :
    (result.underBreakdown ids).predicateId = result.predicateId := by
  by_cases broken : result.predicateId ∈ ids
  · rw [underBreakdown_of_mem broken]
  · rw [underBreakdown_of_not_mem broken]

/-- A breakdown never makes a match. -/
theorem matched_of_underBreakdown
    (matched : (result.underBreakdown ids).matched = true) : result.matched = true := by
  by_cases broken : result.predicateId ∈ ids
  · rw [underBreakdown_of_mem broken] at matched
    cases matched
  · rwa [underBreakdown_of_not_mem broken] at matched

theorem map_underBreakdown_of_spared {results : List PredicateResult}
    (spared : ∀ result ∈ results, result.predicateId ∉ ids) :
    results.map (underBreakdown ids) = results := by
  rw [List.map_congr_left fun result member =>
    underBreakdown_of_not_mem (spared result member)]
  exact List.map_id' results

end PredicateResult

open PredicateResult (underBreakdown underBreakdown_of_mem underBreakdown_of_not_mem
  predicateId_underBreakdown)

/-- Both junctions are monotone in the results of the members. -/
theorem Junction.combine_mono {junction : Junction} {items : List α}
    {test weaker : α → Bool} (implies : ∀ item, test item = true → weaker item = true)
    (combined : junction.combine (items.map test) = true) :
    junction.combine (items.map weaker) = true := by
  cases junction with
  | all =>
      simp only [combine, List.all_map, List.all_eq_true] at combined ⊢
      exact fun item member => implies item (combined item member)
  | any =>
      simp only [combine, List.any_map, List.any_eq_true] at combined ⊢
      obtain ⟨item, member, holds⟩ := combined
      exact ⟨item, member, implies item holds⟩

namespace Specification

open Evaluator (sparing)

section Breakdown

variable {result : Predicate → PredicateResult} {ids : List String}
variable {declared : List PredicateResult}

theorem settledAnswer_sparing
    (named : ∀ predicate, (result predicate).predicateId = predicate.id)
    (predicate : Predicate) :
    settledAnswer (sparing ids fun predicate => some (result predicate)) predicate =
      (result predicate).underBreakdown ids := by
  by_cases broken : predicate.id ∈ ids
  · rw [underBreakdown_of_mem (by rwa [named]), settledAnswer, sparing, if_pos broken,
      named]
    rfl
  · rw [underBreakdown_of_not_mem (by rwa [named]), settledAnswer, sparing,
      if_neg broken]
    rfl

theorem predicateId_memberResult
    (named : ∀ predicate, (result predicate).predicateId = predicate.id)
    (member : Predicate) :
    (memberResult declared result member).predicateId = member.id := by
  rw [memberResult]
  cases found : resultNamed? declared member.id with
  | none => exact named member
  | some known => exact predicateId_of_resultNamed? found

/-- A member keeps its answer unless the evaluator, breaking down on its name, is
all that could give it. -/
theorem memberAnswer?_sparing
    (named : ∀ predicate, (result predicate).predicateId = predicate.id)
    {member : Predicate}
    (kept : member.id ∈ ids → member.id ∈ declared.map PredicateResult.predicateId) :
    memberAnswer? (declared.map (underBreakdown ids))
        (sparing ids fun predicate => some (result predicate)) member =
      some ((memberResult declared result member).underBreakdown ids) := by
  rw [memberAnswer?, memberResult, resultNamed?_changed (predicateId_underBreakdown ids)]
  cases found : resultNamed? declared member.id with
  | some known => rfl
  | none =>
      have undeclared := resultNamed?_eq_none_iff.mp found
      have spared : member.id ∉ ids := fun broken => undeclared (kept broken)
      rw [Option.map_none, Option.none_or, sparing, if_neg spared, Option.getD_none,
        underBreakdown_of_not_mem (by rwa [named])]

theorem memberAnswer?_sparing_eq_none {member : Predicate} (broken : member.id ∈ ids)
    (undeclared : member.id ∉ declared.map PredicateResult.predicateId) :
    memberAnswer? (declared.map (underBreakdown ids))
        (sparing ids fun predicate => some (result predicate)) member = none := by
  rw [memberAnswer?, resultNamed?_changed (predicateId_underBreakdown ids),
    resultNamed?_eq_none_iff.mpr undeclared, Option.map_none, Option.none_or, sparing,
    if_pos broken]

theorem groupAnswer_sparing
    (named : ∀ predicate, (result predicate).predicateId = predicate.id)
    {group : Group}
    (kept : ∀ member ∈ group.members, member.id ∈ ids →
      member.id ∈ declared.map PredicateResult.predicateId) :
    groupAnswer (declared.map (underBreakdown ids))
        (sparing ids fun predicate => some (result predicate)) group =
      .ofMembers group
        ((groupResult declared result group).memberResults.map (underBreakdown ids)) := by
  rw [groupAnswer, mapM_eq_some_map fun member listed =>
    memberAnswer?_sparing named (kept member listed)]
  simp only [groupResult, GroupResult.ofMembers, List.map_map, Function.comp_def]

theorem groupAnswer_sparing_of_lost {group : Group}
    (lost : ∃ member ∈ group.members, member.id ∈ ids ∧
      member.id ∉ declared.map PredicateResult.predicateId) :
    groupAnswer (declared.map (underBreakdown ids))
      (sparing ids fun predicate => some (result predicate)) group = .failed group := by
  obtain ⟨member, listed, broken, undeclared⟩ := lost
  rw [groupAnswer, mapM_eq_none
    ⟨member, listed, memberAnswer?_sparing_eq_none broken undeclared⟩]

/-- A group whose evaluation survives the breakdowns is matched only if it was. -/
theorem matched_of_groupAnswer_sparing
    (named : ∀ predicate, (result predicate).predicateId = predicate.id)
    {group : Group}
    (matched : (groupAnswer (declared.map (underBreakdown ids))
      (sparing ids fun predicate => some (result predicate)) group).matched = true) :
    (groupResult declared result group).matched = true := by
  by_cases lost : ∃ member ∈ group.members, member.id ∈ ids ∧
      member.id ∉ declared.map PredicateResult.predicateId
  · rw [groupAnswer_sparing_of_lost lost] at matched
    cases matched
  · have kept : ∀ member ∈ group.members, member.id ∈ ids →
        member.id ∈ declared.map PredicateResult.predicateId :=
      fun member listed broken => Classical.not_not.mp fun undeclared =>
        lost ⟨member, listed, broken, undeclared⟩
    rw [groupAnswer_sparing named kept, GroupResult.ofMembers, List.map_map] at matched
    exact Junction.combine_mono
      (fun _ => PredicateResult.matched_of_underBreakdown) matched

end Breakdown

/-- A breakdown stays where it happens.  Under the evaluator that breaks down on
some names there is still one result for every declared name and for every
group; the results under other names and the groups without members of these
names are the same; a group fails if it needs a result that nobody has declared;
in the others the members keep their places; and no group is matched that was
not matched before. -/
theorem evaluate_isolates_breakdowns {setting : Setting} {engine later : Engine}
    (serving : engine.Serves setting) (laterServing : later.Serves setting)
    (ids : List String) (document : Value) (specification : Specification) :
    let normal :=
      ((evaluate Predicate.evaluate document specification).run engine).1.outcome
    let failing := ((evaluate (Predicate.evaluate.breakingOn ids) document
      specification).run later).1.outcome
    let names := specification.predicates.map Predicate.id
    failing.predicateResults.map PredicateResult.predicateId =
      normal.predicateResults.map PredicateResult.predicateId ∧
    failing.predicateResults = normal.predicateResults.map (underBreakdown ids) ∧
    (∀ result ∈ failing.predicateResults, result.predicateId ∈ ids →
      result.state = .undetermined ∧ result.missingPaths = []) ∧
    ∃ before after : Group → GroupResult,
      normal.groupResults = specification.groups.map before ∧
      failing.groupResults = specification.groups.map after ∧
      ∀ group ∈ specification.groups,
        ((before group).groupId = group.id ∧ (before group).junction = group.junction) ∧
        ((after group).groupId = group.id ∧ (after group).junction = group.junction) ∧
        ((∀ member ∈ group.members, member.id ∉ ids) → after group = before group) ∧
        ((∃ member ∈ group.members, member.id ∈ ids ∧ member.id ∉ names) →
          (after group).memberResults = [] ∧ (after group).matched = false) ∧
        ((∀ member ∈ group.members, member.id ∈ ids → member.id ∈ names) →
          (before group).memberResults.map PredicateResult.predicateId =
            group.members.map Predicate.id ∧
          (after group).memberResults =
            (before group).memberResults.map (underBreakdown ids)) ∧
        ((after group).matched = true → (before group).matched = true) := by
  intro normal failing names
  let result := fun predicate : Predicate => predicate.resultIn setting document
  let answer? := fun predicate : Predicate => some (result predicate)
  let declared := (firstResults [] (specification.predicates.map result)).1
  have named (predicate : Predicate) : (result predicate).predicateId = predicate.id :=
    Predicate.resultIn_predicateId
  have yields := Evaluator.yields_evaluate setting document
  have normalEq : normal = ⟨specification.id, declared,
      specification.groups.map (groupResult declared result), .ofResults declared⟩ :=
    outcome_of_settled
      (fun predicate _ => Evaluator.settles_evaluate setting document predicate)
      (fun _ _ member _ => Evaluator.settles_evaluate setting document member) serving
  have declaredUnder : (firstResults [] (specification.predicates.map
      (settledAnswer (sparing ids answer?)))).1 = declared.map (underBreakdown ids) := by
    rw [funext (settledAnswer_sparing named), ← firstResults_map
      (predicateId_underBreakdown ids), List.map_map]
    rfl
  have failingEq : failing = ⟨specification.id, declared.map (underBreakdown ids),
      specification.groups.map (groupAnswer (declared.map (underBreakdown ids))
        (sparing ids answer?)), .ofResults (declared.map (underBreakdown ids))⟩ := by
    rw [← declaredUnder]
    exact outcome_of_yields (fun predicate _ => (yields predicate).breakingOn ids)
      (fun _ _ member _ => (yields member).breakingOn ids) laterServing
  have declaredNames (id : String) :
      id ∈ declared.map PredicateResult.predicateId ↔ id ∈ names := by
    rw [mem_map_predicateId_firstResults, List.map_map]
    simp only [Function.comp_def, named, names]
  rw [normalEq, failingEq]
  refine ⟨?_, rfl, ?_, groupResult declared result,
    groupAnswer (declared.map (underBreakdown ids)) (sparing ids answer?), rfl, rfl, ?_⟩
  · rw [List.map_map]
    exact List.map_congr_left fun known _ => predicateId_underBreakdown ids known
  · intro found member broken
    obtain ⟨known, -, rfl⟩ := List.mem_map.mp member
    rw [predicateId_underBreakdown] at broken
    rw [underBreakdown_of_mem broken]
    exact ⟨rfl, rfl⟩
  · intro group _
    refine ⟨⟨rfl, rfl⟩, groupAnswer_group _ _ group, ?_, ?_, ?_,
      matched_of_groupAnswer_sparing named⟩
    · intro spared
      rw [groupAnswer_sparing named fun member listed broken =>
          absurd broken (spared member listed),
        PredicateResult.map_underBreakdown_of_spared]
      · rfl
      · intro found member
        obtain ⟨own, listed, rfl⟩ := List.mem_map.mp member
        rw [predicateId_memberResult named]
        exact spared own listed
    · rintro ⟨member, listed, broken, undeclared⟩
      rw [groupAnswer_sparing_of_lost
        ⟨member, listed, broken, fun known => undeclared ((declaredNames _).mp known)⟩]
      exact ⟨rfl, rfl⟩
    · intro kept
      rw [groupAnswer_sparing named fun member listed broken =>
        (declaredNames _).mpr (kept member listed broken)]
      refine ⟨?_, rfl⟩
      simp only [groupResult, GroupResult.ofMembers, List.map_map]
      exact List.map_congr_left fun member _ => predicateId_memberResult named member

theorem evaluate_isolates_breakdowns_of_undeclared_member :
    let setting := Setting.known .standard default
    let query := Query.ofList [("x", .null)]
    let kept : Group := ⟨"g", .any, [⟨"a", .empty⟩, ⟨"b", .empty⟩]⟩
    let lost : Group := ⟨"h", .any, [⟨"a", .empty⟩, ⟨"c", query⟩]⟩
    let specification : Specification := ⟨"s", [⟨"a", query⟩, ⟨"b", query⟩], [kept, lost]⟩
    let failing := ((evaluate (Predicate.evaluate.breakingOn ["b", "c"])
      (.mapping [(.text "x", .null)]) specification).run setting.engine).1.outcome
    setting.engine.Serves setting ∧
      failing.predicateResults.map PredicateResult.predicateId = ["a", "b"] ∧
      ∃ keptResult lostResult, failing.groupResults = [keptResult, lostResult] ∧
        keptResult.memberResults.map PredicateResult.predicateId = ["a", "b"] ∧
        lostResult.memberResults = [] ∧ lostResult.matched = false := by
  intro setting query kept lost specification failing
  have serving := Engine.serves_engine setting
  obtain ⟨names, -, -, before, after, -, afterEq, groups⟩ :=
    evaluate_isolates_breakdowns serving serving ["b", "c"]
      (.mapping [(.text "x", .null)]) specification
  obtain ⟨-, -, -, -, keptMembers, -⟩ := groups kept List.mem_cons_self
  obtain ⟨-, -, -, lostMembers, -, -⟩ := groups lost (List.mem_cons_of_mem _ List.mem_cons_self)
  obtain ⟨members, replaced⟩ := keptMembers (by decide)
  refine ⟨serving, names.trans (by decide +kernel), after kept, after lost, afterEq, ?_,
    lostMembers ⟨⟨"c", query⟩, by simp [lost], by decide⟩⟩
  have sameNames : PredicateResult.predicateId ∘ underBreakdown ["b", "c"] =
      PredicateResult.predicateId := funext (predicateId_underBreakdown _)
  rw [replaced, List.map_map, sameNames, members]
  rfl

end Specification

end Criteria
