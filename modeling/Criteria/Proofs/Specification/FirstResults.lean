import Mathlib.Data.List.Nodup
import Criteria.Specification.Evaluation

/-!
# First results

Of the results with one name, the first is kept.  The names that remain are the
names of all results without repetitions, and looking a name up among the kept
results is looking it up among all of them.
-/

namespace Criteria

namespace Specification

/-- The result under a name. -/
def resultNamed? (results : List PredicateResult) (id : String) :
    Option PredicateResult :=
  results.find? fun result => result.predicateId = id

theorem resultNamed?_cons (result : PredicateResult) (rest : List PredicateResult)
    (id : String) :
    resultNamed? (result :: rest) id =
      if result.predicateId = id then some result else resultNamed? rest id := by
  unfold resultNamed?
  rw [List.find?_cons]
  by_cases same : result.predicateId = id <;> simp [same]

theorem firstResults_cons_of_mem {known : List String} {result : PredicateResult}
    {rest : List PredicateResult} (member : result.predicateId ∈ known) :
    (firstResults known (result :: rest)).1 = (firstResults known rest).1 := by
  rw [firstResults, if_pos (by simpa using member)]

theorem firstResults_cons_of_not_mem {known : List String}
    {result : PredicateResult} {rest : List PredicateResult}
    (new : result.predicateId ∉ known) :
    (firstResults known (result :: rest)).1 =
      result :: (firstResults (result.predicateId :: known) rest).1 := by
  rw [firstResults, if_neg (by simpa using new)]

theorem map_predicateId_firstResults (known : List String)
    (results : List PredicateResult) :
    (firstResults known results).1.map PredicateResult.predicateId =
      ((results.map PredicateResult.predicateId).filter
        fun id => id ∉ known).eraseDups := by
  induction results generalizing known with
  | nil => rfl
  | cons result rest induction =>
      by_cases member : result.predicateId ∈ known
      · rw [firstResults_cons_of_mem member, induction, List.map_cons,
          List.filter_cons_of_neg (by simpa using member)]
      · rw [firstResults_cons_of_not_mem member, List.map_cons, induction,
          List.map_cons, List.filter_cons_of_pos (by simpa using member),
          List.eraseDups_cons, List.filter_filter]
        congr 3
        funext id
        by_cases same : id = result.predicateId <;> simp [same]

theorem mem_map_predicateId_firstResults {results : List PredicateResult} {id : String} :
    id ∈ (firstResults [] results).1.map PredicateResult.predicateId ↔
      id ∈ results.map PredicateResult.predicateId := by
  rw [map_predicateId_firstResults, List.mem_eraseDups,
    List.filter_eq_self.mpr fun _ _ => by simp]

theorem resultNamed?_firstResults {known : List String} {id : String}
    (new : id ∉ known) (results : List PredicateResult) :
    resultNamed? (firstResults known results).1 id = resultNamed? results id := by
  induction results generalizing known with
  | nil => rfl
  | cons result rest induction =>
      rw [resultNamed?_cons result rest]
      by_cases member : result.predicateId ∈ known
      · have different : result.predicateId ≠ id := by
          rintro rfl
          exact new member
        rw [firstResults_cons_of_mem member, induction new, if_neg different]
      · rw [firstResults_cons_of_not_mem member, resultNamed?_cons]
        by_cases same : result.predicateId = id
        · rw [if_pos same, if_pos same]
        · rw [if_neg same, if_neg same]
          apply induction
          simp [Ne.symm same, new]

theorem nodup_map_predicateId_firstResults (known : List String)
    (results : List PredicateResult) :
    ((firstResults known results).1.map PredicateResult.predicateId).Nodup := by
  induction results generalizing known with
  | nil => exact List.nodup_nil
  | cons result rest induction =>
      by_cases member : result.predicateId ∈ known
      · rw [firstResults_cons_of_mem member]
        exact induction known
      · rw [firstResults_cons_of_not_mem member, List.map_cons, List.nodup_cons]
        refine ⟨?_, induction _⟩
        rw [map_predicateId_firstResults, List.mem_eraseDups]
        simp

section Changes

variable {change : PredicateResult → PredicateResult}

/-- A change of the results that keeps their names keeps the choice among them. -/
theorem firstResults_map
    (named : ∀ result, (change result).predicateId = result.predicateId)
    (known : List String) (results : List PredicateResult) :
    (firstResults known (results.map change)).1 =
      (firstResults known results).1.map change := by
  induction results generalizing known with
  | nil => rfl
  | cons result rest induction =>
      rw [List.map_cons]
      by_cases member : result.predicateId ∈ known
      · have changedMember : (change result).predicateId ∈ known := by
          rw [named]
          exact member
        rw [firstResults_cons_of_mem member, firstResults_cons_of_mem changedMember,
          induction]
      · have changedNew : (change result).predicateId ∉ known := by
          rw [named]
          exact member
        rw [firstResults_cons_of_not_mem member,
          firstResults_cons_of_not_mem changedNew, named, induction, List.map_cons]

theorem resultNamed?_changed
    (named : ∀ result, (change result).predicateId = result.predicateId)
    (results : List PredicateResult) (id : String) :
    resultNamed? (results.map change) id = (resultNamed? results id).map change := by
  rw [resultNamed?, resultNamed?, List.find?_map]
  simp only [Function.comp_def, named]

end Changes

section Selection

variable {known other : List String} {results : List PredicateResult}

/-- It does not matter how often names are known, or which without a result. -/
theorem firstResults_congr
    (same : ∀ result ∈ results, result.predicateId ∈ known ↔ result.predicateId ∈ other) :
    (firstResults known results).1 = (firstResults other results).1 := by
  induction results generalizing known other with
  | nil => rfl
  | cons result rest induction =>
      obtain ⟨here, later⟩ := List.forall_mem_cons.mp same
      by_cases member : result.predicateId ∈ known
      · rw [firstResults_cons_of_mem member, firstResults_cons_of_mem (here.mp member),
          induction later]
      · rw [firstResults_cons_of_not_mem member,
          firstResults_cons_of_not_mem (mt here.mpr member), induction]
        intro next inRest
        rw [List.mem_cons, List.mem_cons, later next inRest]

/-- The choice among results goes on alike when only some names are kept. -/
theorem firstResults_filter (keep : String → Bool) (known : List String)
    (results : List PredicateResult) :
    (firstResults known (results.filter fun result => keep result.predicateId)).1 =
      (firstResults known results).1.filter fun result => keep result.predicateId := by
  induction results generalizing known with
  | nil => rfl
  | cons result rest induction =>
      rw [List.filter_cons]
      by_cases member : result.predicateId ∈ known
      · rw [firstResults_cons_of_mem member, ← induction known]
        split
        · rw [firstResults_cons_of_mem member]
        · rfl
      · rw [firstResults_cons_of_not_mem member, List.filter_cons, ← induction]
        split
        · rw [firstResults_cons_of_not_mem member]
        · next dropped =>
            -- The dropped name is known from here on, but no kept result has it.
            refine firstResults_congr fun next kept => ?_
            have different : next.predicateId ≠ result.predicateId := by
              intro same
              rw [← same] at dropped
              exact dropped (List.mem_filter.mp kept).2
            simp [different]

end Selection

section Distinct

variable {results others : List PredicateResult}

theorem mem_iff_resultNamed? {result : PredicateResult}
    (distinct : (results.map PredicateResult.predicateId).Nodup) :
    result ∈ results ↔ resultNamed? results result.predicateId = some result := by
  induction results with
  | nil => simp [resultNamed?]
  | cons first rest induction =>
      obtain ⟨new, restDistinct⟩ := List.nodup_cons.mp distinct
      rw [resultNamed?_cons, List.mem_cons, induction restDistinct]
      by_cases same : first.predicateId = result.predicateId
      · have notLater : resultNamed? rest result.predicateId ≠ some result := by
          intro found
          rw [← induction restDistinct] at found
          exact new (same ▸ List.mem_map_of_mem found)
        simp [same, notLater, eq_comm]
      · have different : result ≠ first := fun equal => same (by rw [equal])
        simp [same, different]

/-- Results with distinct names are the same up to their order if the same is found
under every name. -/
theorem perm_of_resultNamed?_eq
    (distinct : (results.map PredicateResult.predicateId).Nodup)
    (othersDistinct : (others.map PredicateResult.predicateId).Nodup)
    (same : ∀ id, resultNamed? results id = resultNamed? others id) :
    results.Perm others := by
  refine (List.perm_ext_iff_of_nodup (.of_map _ distinct)
    (.of_map _ othersDistinct)).mpr fun result => ?_
  rw [mem_iff_resultNamed? distinct, mem_iff_resultNamed? othersDistinct, same]

end Distinct

theorem resultNamed?_eq_none_iff {results : List PredicateResult} {id : String} :
    resultNamed? results id = none ↔
      id ∉ results.map PredicateResult.predicateId := by
  simp [resultNamed?]

theorem predicateId_of_resultNamed? {results : List PredicateResult} {id : String}
    {result : PredicateResult} (found : resultNamed? results id = some result) :
    result.predicateId = id := by
  simpa using List.find?_some found

end Specification

end Criteria
