import Mathlib.Data.List.DropRight
import Mathlib.Data.List.Dedup
import Criteria.Proofs.Engine.Steadiness

/-!
# Recency of patterns

A cache recalls a history of patterns that it was asked for if its patterns are
the latest distinct ones of those that can be compiled, as many as it has room
for, in the order in which they were last asked for.  Asking for one more
pattern adds it to the history, and clearing the cache starts a new one.
-/

namespace Criteria

namespace Pattern

def compiles (names : CharacterNames) (pattern : String) : Bool :=
  (compile names pattern).isOk

/-- The latest distinct patterns of a history that can be compiled, the latest
one last. -/
def latest (names : CharacterNames) (capacity : Nat) (history : List String) : List String :=
  (history.filter (compiles names)).dedup.rtake capacity

section Latest

variable {names : CharacterNames}

theorem compiles_iff {pattern : String} :
    compiles names pattern = true ↔ ∃ compiled, compile names pattern = .ok compiled := by
  unfold compiles
  cases compile names pattern <;> simp [Except.isOk, Except.toBool]

theorem length_rtake_le (items : List α) (count : Nat) :
    (items.rtake count).length ≤ count := by
  rw [List.rtake, List.length_drop]
  omega

theorem rtake_of_length_le {items : List α} {count : Nat}
    (short : items.length ≤ count) : items.rtake count = items := by
  rw [List.rtake, Nat.sub_eq_zero_of_le short, List.drop_zero]

theorem nodup_latest (capacity : Nat) (history : List String) :
    (latest names capacity history).Nodup :=
  (List.nodup_dedup _).sublist (List.drop_sublist _ _)

theorem length_latest_le (capacity : Nat) (history : List String) :
    (latest names capacity history).length ≤ capacity :=
  length_rtake_le _ capacity

theorem dedup_concat (history : List String) (pattern : String) :
    (history ++ [pattern]).dedup = history.dedup.filter (· ≠ pattern) ++ [pattern] := by
  induction history with
  | nil => simp
  | cons first rest induction =>
      rw [List.cons_append, List.dedup_cons', List.dedup_cons', induction]
      by_cases same : first = pattern
      · subst same
        by_cases member : first ∈ rest <;> simp [member]
      · by_cases member : first ∈ rest <;> simp [same, member]

/-- Among distinct patterns, leaving one out makes room for one more. -/
theorem rtake_filter_rtake {patterns : List String} (distinct : patterns.Nodup)
    (pattern : String) (count : Nat) :
    ((patterns.rtake (count + 1)).filter (· ≠ pattern)).rtake count =
      (patterns.filter (· ≠ pattern)).rtake count := by
  induction patterns using List.reverseRecOn generalizing count with
  | nil => simp
  | append_singleton earlier last induction =>
      rw [← List.concat_eq_append, List.nodup_concat] at distinct
      obtain ⟨lastNew, earlierDistinct⟩ := distinct
      rw [List.rtake_concat_succ, List.filter_append, List.filter_append]
      by_cases same : last = pattern
      · subst same
        have others : ∀ other ∈ earlier, decide (other ≠ last) = true := by
          rintro other member
          exact decide_eq_true fun same => lastNew (same ▸ member)
        have recent : earlier.rtake count ⊆ earlier := List.drop_subset _ _
        rw [List.filter_eq_self.mpr others,
          List.filter_eq_self.mpr fun other member => others other (recent member)]
        simp [rtake_of_length_le (length_rtake_le earlier count)]
      · have kept : [last].filter (· ≠ pattern) = [last] := by simp [same]
        rw [kept]
        cases count with
        | zero => simp
        | succ count =>
            rw [List.rtake_concat_succ, List.rtake_concat_succ,
              induction earlierDistinct]

theorem latest_concat {pattern : String} (compiled : compiles names pattern = true)
    (count : Nat) (history : List String) :
    latest names (count + 1) (history ++ [pattern]) =
      ((latest names (count + 1) history).filter (· ≠ pattern)).rtake count ++ [pattern] := by
  have distinct := List.nodup_dedup (history.filter (compiles names))
  rw [latest, latest, rtake_filter_rtake distinct, List.filter_append,
    List.filter_cons_of_pos compiled, List.filter_nil, dedup_concat,
    List.rtake_concat_succ]

theorem latest_concat_of_rejected {pattern : String}
    (rejected : compiles names pattern = false) (capacity : Nat) (history : List String) :
    latest names capacity (history ++ [pattern]) = latest names capacity history := by
  simp [latest, rejected]

end Latest

namespace Cache

/-- The patterns are the latest ones of a history, each with its own compilation. -/
structure Recalls (cache : Cache) (history : List String) : Prop where
  sound : cache.Sound
  patterns_eq : cache.patterns = latest cache.names cache.capacity history

theorem patterns_moveToEnd (pattern : String) (compiled : Compiled)
    (entries : List (String × Compiled)) :
    (moveToEnd pattern compiled entries).map Prod.fst =
      (entries.map Prod.fst).filter (· ≠ pattern) ++ [pattern] := by
  rw [moveToEnd, List.map_append, List.filter_map]
  rfl

theorem patterns_store (cache : Cache) (pattern : String) (compiled : Compiled) :
    (cache.store pattern compiled).patterns =
      (cache.patterns.filter (· ≠ pattern) ++ [pattern]).rtake cache.capacity := by
  unfold patterns store
  rw [List.map_drop, List.rtake, ← patterns_moveToEnd pattern compiled, List.length_map]

theorem find?_isSome_iff {cache : Cache} {pattern : String} :
    (cache.find? pattern).isSome = true ↔ pattern ∈ cache.patterns := by
  simp [find?, patterns]

/-- Within the capacity, moving a stored pattern to the end is storing it again. -/
theorem store_eq_of_mem {cache : Cache} {pattern : String} (compiled : Compiled)
    (member : pattern ∈ cache.patterns) (room : cache.patterns.length ≤ cache.capacity) :
    cache.store pattern compiled =
      { cache with entries := moveToEnd pattern compiled cache.entries } := by
  have shorter : (cache.patterns.filter (· ≠ pattern)).length < cache.patterns.length := by
    rw [List.length_filter_lt_length_iff_exists]
    exact ⟨pattern, member, by simp⟩
  have fits : (moveToEnd pattern compiled cache.entries).length ≤ cache.capacity := by
    rw [← List.length_map Prod.fst, patterns_moveToEnd, List.length_append]
    exact (Nat.succ_le_of_lt shorter).trans room
  rw [store, Nat.sub_eq_zero_of_le fits, List.drop_zero]

/-- Asking for a pattern stores it as the latest, whether it was there or not. -/
theorem get_of_compile {cache : Cache} (sound : cache.Sound)
    (room : cache.patterns.length ≤ cache.capacity) {pattern : String}
    {compiled : Compiled} (compilation : compile cache.names pattern = .ok compiled) :
    cache.get pattern = (.ok compiled, cache.store pattern compiled) := by
  cases found : cache.find? pattern with
  | none => simp [get, touch, found, compilation]
  | some stored =>
      have same : stored = compiled := by
        simpa [compilation, eq_comm] using sound.compile_of_find? found
      have member : pattern ∈ cache.patterns := find?_isSome_iff.mp (by simp [found])
      rw [store_eq_of_mem compiled member room]
      simp [get, touch, found, same]

/-- Asking for a pattern that cannot be compiled changes nothing. -/
theorem get_of_rejection {cache : Cache} (sound : cache.Sound) {pattern : String}
    {rejection : Rejection} (rejected : compile cache.names pattern = .error rejection) :
    cache.get pattern = (.error rejection, cache) := by
  have absent : cache.find? pattern = none := by
    rw [Option.eq_none_iff_forall_ne_some]
    intro compiled found
    rw [sound.compile_of_find? found] at rejected
    cases rejected
  simp [get, touch, absent, rejected]

theorem capacity_get (cache : Cache) (pattern : String) :
    (cache.get pattern).2.capacity = cache.capacity := by
  unfold get touch
  cases cache.find? pattern with
  | some stored => rfl
  | none => cases compile cache.names pattern <;> rfl

namespace Recalls

variable {cache : Cache} {history : List String}

theorem nodup (recalls : cache.Recalls history) : cache.patterns.Nodup := by
  rw [recalls.patterns_eq]
  exact nodup_latest _ history

theorem length_le (recalls : cache.Recalls history) :
    cache.patterns.length ≤ cache.capacity := by
  rw [recalls.patterns_eq]
  exact length_latest_le _ history

theorem store (recalls : cache.Recalls history) {pattern : String} {compiled : Compiled}
    (compilation : compile cache.names pattern = .ok compiled) :
    (cache.store pattern compiled).Recalls (history ++ [pattern]) := by
  refine ⟨recalls.sound.store compilation, ?_⟩
  obtain ⟨count, capacity⟩ := Nat.exists_eq_succ_of_ne_zero cache.capacityPositive.ne'
  rw [patterns_store]
  change _ = latest cache.names cache.capacity _
  rw [recalls.patterns_eq, capacity, List.rtake_concat_succ,
    latest_concat (compiles_iff.mpr ⟨compiled, compilation⟩)]

theorem get (recalls : cache.Recalls history) (pattern : String) :
    (cache.get pattern).2.Recalls (history ++ [pattern]) := by
  cases compilation : compile cache.names pattern with
  | ok compiled =>
      rw [get_of_compile recalls.sound recalls.length_le compilation]
      exact recalls.store compilation
  | error rejection =>
      have rejected : compiles cache.names pattern = false := by
        simp [compiles, compilation]
        rfl
      rw [get_of_rejection recalls.sound compilation]
      refine ⟨recalls.sound, ?_⟩
      rw [recalls.patterns_eq, latest_concat_of_rejected rejected]

end Recalls

theorem recalls_clear (cache : Cache) : cache.clear.Recalls [] :=
  ⟨nofun, by simp [patterns, clear, latest]⟩

/-- What can be asked of a cache. -/
inductive Call where
  | get (pattern : String)
  | clear
  deriving DecidableEq

namespace Call

/-- The pattern that is asked for, if one is. -/
def pattern? : Call → Option String
  | .get pattern => some pattern
  | .clear => none

end Call

/-- The cache after a call, whatever its answer is. -/
def perform (cache : Cache) : Call → Cache
  | .get pattern => (cache.get pattern).2
  | .clear => cache.clear

/-- The cache after a run of calls. -/
def after (cache : Cache) (calls : List Call) : Cache :=
  calls.foldl perform cache

/-- The patterns asked for since the cache was cleared for the last time. -/
def history (calls : List Call) : List String :=
  (calls.rtakeWhile (· ≠ .clear)).filterMap Call.pattern?

theorem after_append (cache : Cache) (calls later : List Call) :
    cache.after (calls ++ later) = (cache.after calls).after later :=
  List.foldl_append

theorem after_concat (cache : Cache) (calls : List Call) (call : Call) :
    cache.after (calls ++ [call]) = (cache.after calls).perform call :=
  after_append cache calls [call]

theorem capacity_perform (cache : Cache) (call : Call) :
    (cache.perform call).capacity = cache.capacity := by
  cases call with
  | get pattern => exact capacity_get cache pattern
  | clear => rfl

theorem capacity_after (cache : Cache) (calls : List Call) :
    (cache.after calls).capacity = cache.capacity := by
  induction calls using List.reverseRecOn with
  | nil => rfl
  | append_singleton calls call induction =>
      rw [after_concat, capacity_perform, induction]

theorem names_perform (cache : Cache) (call : Call) :
    (cache.perform call).names = cache.names := by
  cases call with
  | get pattern => exact names_get cache pattern
  | clear => rfl

theorem names_after (cache : Cache) (calls : List Call) :
    (cache.after calls).names = cache.names := by
  induction calls using List.reverseRecOn with
  | nil => rfl
  | append_singleton calls call induction =>
      rw [after_concat, names_perform, induction]

theorem history_concat_get (calls : List Call) (pattern : String) :
    history (calls ++ [.get pattern]) = history calls ++ [pattern] := by
  rw [history, List.rtakeWhile_concat_pos _ _ _ (by simp), List.filterMap_append]
  rfl

theorem history_concat_clear (calls : List Call) :
    history (calls ++ [.clear]) = [] := by
  rw [history, List.rtakeWhile_concat_neg _ _ _ (by simp), List.filterMap_nil]

theorem history_map_get (patterns : List String) :
    history (patterns.map .get) = patterns := by
  induction patterns using List.reverseRecOn with
  | nil => rfl
  | append_singleton patterns pattern induction =>
      rw [List.map_append, List.map_singleton, history_concat_get, induction]

/-- A call keeps the cache in step with the history. -/
theorem Recalls.perform {cache : Cache} {calls : List Call}
    (recalls : cache.Recalls (history calls)) (call : Call) :
    (cache.perform call).Recalls (history (calls ++ [call])) := by
  cases call with
  | get pattern =>
      rw [history_concat_get]
      exact recalls.get pattern
  | clear =>
      rw [history_concat_clear]
      exact recalls_clear cache

theorem recalls_after (names : CharacterNames) (capacity : Nat)
    (capacityPositive : 0 < capacity) (calls : List Call) :
    ((empty names capacity capacityPositive).after calls).Recalls (history calls) := by
  induction calls using List.reverseRecOn with
  | nil => exact recalls_clear (empty names capacity capacityPositive)
  | append_singleton calls call induction =>
      rw [after_concat]
      exact induction.perform call

theorem patterns_after (names : CharacterNames) (capacity : Nat)
    (capacityPositive : 0 < capacity) (calls : List Call) :
    ((empty names capacity capacityPositive).after calls).patterns =
      latest names capacity (history calls) := by
  rw [(recalls_after names capacity capacityPositive calls).patterns_eq, names_after,
    capacity_after]
  rfl

/-- After every run of calls a cache holds the latest distinct patterns that it
was asked for since it was cleared, as many as it has room for, in the order in
which they were last asked for, each with its own compilation.  Whatever it has
been through, asking it for a pattern is compiling the pattern, and being refused
leaves it as it was. -/
theorem after_holds_latest (names : CharacterNames) (capacity : Nat)
    (capacityPositive : 0 < capacity) (calls : List Call) :
    let cache := (empty names capacity capacityPositive).after calls
    cache.patterns = ((history calls).filter (compiles names)).dedup.rtake capacity ∧
    cache.patterns.Nodup ∧ cache.patterns.length ≤ capacity ∧
    (∀ entry ∈ cache.entries, compile names entry.1 = .ok entry.2) ∧
    (∀ pattern, (cache.get pattern).1 = compile names pattern) ∧
    (∀ pattern rejection, (cache.get pattern).1 = .error rejection →
      (cache.get pattern).2 = cache) := by
  intro cache
  have recalls : cache.Recalls (history calls) :=
    recalls_after names capacity capacityPositive calls
  have sameCapacity : cache.capacity = capacity := capacity_after _ calls
  have sameNames : cache.names = names := names_after _ calls
  refine ⟨patterns_after names capacity capacityPositive calls, recalls.nodup, ?_,
    sameNames ▸ recalls.sound, sameNames ▸ recalls.sound.get_eq, ?_⟩
  · rw [← sameCapacity]
    exact recalls.length_le
  · intro pattern rejection refused
    rw [recalls.sound.get_eq] at refused
    rw [get_of_rejection recalls.sound refused]

theorem after_holds_latest_of_eviction_and_refusal :
    0 < 2 ∧ ((empty .standard 2 (by decide)).after
      [.get "x", .clear, .get "a", .get "b", .get "(", .get "a", .get "c"]).patterns =
        ["a", "c"] := by
  refine ⟨by decide, (after_holds_latest .standard 2 (by decide) _).1.trans ?_⟩
  decide +kernel

end Cache

end Pattern

end Criteria
