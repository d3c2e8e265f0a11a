import Criteria.Schema.Assembly

/-!
# Assembled engines

An engine that settings ask for starts with all known operators and an empty cache,
which has room for as many patterns as the settings say.
-/

namespace Criteria

namespace Schema

/-- The value of a field of a mapping. -/
def part? (name : String) (value : Value) : Option Value :=
  value.entries?.bind (field? name)

theorem part?_of_not_truthy {value : Value} (empty : value.isTruthy = false)
    (name : String) : part? name value = none := by
  rcases value with _ | _ | _ | _ | _ | _ | _ | _ | (_ | ⟨entry, entries⟩)
  case mapping.cons => cases empty
  all_goals rfl

/-- A field that is left out is as good as null. -/
theorem bind_part?_eq (given : Option Value) (name : String) :
    given.bind (part? name) = part? name (given.getD .null) := by
  cases given <;> rfl

theorem readCount_eq_ok {name : String} {entries : List (Key × Value)} {count : Option Int}
    (read : readCount [] name entries = .ok count) :
    count = (field? name entries).bind
        (fun value => (readInteger [.name name] value).toOption) ∧
      ∀ size ∈ count, 0 < size.toNat := by
  unfold readCount at read
  cases given : field? name entries with
  | none =>
      rw [given] at read
      cases read
      exact ⟨rfl, by simp⟩
  | some value =>
      rw [given] at read
      by_cases null : value = .null
      · subst null
        cases read
        exact ⟨rfl, by simp⟩
      rw [Option.bind_some]
      cases integer : readInteger [.name name] value with
      | error issues => simp [integer, Bind.bind, Except.bind] at read
      | ok size =>
          simp only [List.nil_append, integer, Bind.bind, Except.bind] at read
          by_cases small : size < 1
          · simp [small, refuse] at read
          · rw [if_neg small] at read
            cases read
            refine ⟨rfl, ?_⟩
            rintro _ ⟨⟩
            omega

theorem readEvaluation_eq_ok {value : Value} {evaluation : EvaluationSettings}
    (read : readEvaluation [] value = .ok evaluation) :
    evaluation.regexCacheSize = (part? "regex_cache_size" value).bind
        (fun size => (readInteger [.name "regex_cache_size"] size).toOption) ∧
      ∀ size ∈ evaluation.regexCacheSize, 0 < size.toNat := by
  cases value with
  | mapping entries =>
      simp only [readEvaluation] at read
      cases workersRead : readCount [] "max_workers" entries with
      | error issues => simp [workersRead] at read
      | ok workers =>
          cases sizeRead : readCount [] "regex_cache_size" entries with
          | error issues => simp [workersRead, sizeRead] at read
          | ok size =>
              rw [workersRead, sizeRead] at read
              cases read
              exact readCount_eq_ok sizeRead
  | _ => cases read

end Schema

namespace Assembly

/-- The size of the cache of patterns that settings give, if they do. -/
def givenCacheSize? (settings : Value) : Option Int :=
  ((Schema.part? "evaluation" settings).bind (Schema.part? "regex_cache_size")).bind
    fun size => (Schema.readInteger [.name "regex_cache_size"] size).toOption

/-- The number of patterns that settings make room for: the size that they give, or
else the default. -/
def cacheSize (settings : Value) : Nat :=
  ((givenCacheSize? settings).map Int.toNat).getD Pattern.Cache.defaultCapacity

theorem readPassedOn_eq_ok {entries : List (Key × Value)} {evaluation : EvaluationSettings}
    (passed : readPassedOn entries = .ok evaluation) :
    evaluation.regexCacheSize = givenCacheSize? (.mapping entries) ∧
      ∀ size ∈ evaluation.regexCacheSize, 0 < size.toNat := by
  unfold readPassedOn at passed
  unfold givenCacheSize?
  change _ = ((Schema.field? "evaluation" entries).bind _).bind _ ∧ _
  rw [Schema.bind_part?_eq]
  generalize (Schema.field? "evaluation" entries).getD .null = value at passed ⊢
  cases truthy : value.isTruthy with
  | false =>
      simp only [truthy] at passed
      cases passed
      exact ⟨by rw [Schema.part?_of_not_truthy truthy]; rfl, by simp⟩
  | true =>
      simp only [truthy] at passed
      cases value with
      | mapping given =>
          simp only [Bool.not_true, Bool.false_eq_true, if_false] at passed
          split at passed
          · cases read : Schema.readEvaluation [] (.mapping given) with
            | ok settings =>
                rw [read] at passed
                cases passed
                exact Schema.readEvaluation_eq_ok read
            | error issues => simp [read] at passed
          · cases passed
      | _ => cases passed

theorem ofSettings_eq_ok {settings : Value} {present : Instant} {names : CharacterNames}
    {assembly : Assembly} (assembled : ofSettings settings present names = .ok assembly) :
    ∃ evaluation, assembly = ofEvaluation evaluation present names ∧
      evaluation.regexCacheSize = givenCacheSize? settings ∧
      ∀ size ∈ evaluation.regexCacheSize, 0 < size.toNat := by
  unfold ofSettings at assembled
  cases truthy : settings.isTruthy with
  | false =>
      simp only [truthy] at assembled
      cases assembled
      refine ⟨⟨none, none⟩, rfl, ?_, by simp⟩
      rw [givenCacheSize?, Schema.part?_of_not_truthy truthy]
      rfl
  | true =>
      simp only [truthy] at assembled
      cases settings with
      | mapping entries =>
          simp only [Bool.not_true, Bool.false_eq_true, if_false] at assembled
          cases passed : readPassedOn entries with
          | ok evaluation =>
              rw [passed] at assembled
              cases assembled
              exact ⟨evaluation, rfl, readPassedOn_eq_ok passed⟩
          | error error =>
              rw [passed] at assembled
              cases assembled
      | _ => cases assembled

/-- An assembled engine starts with all known operators and an empty cache. -/
theorem engine_of_ofSettings {settings : Value} {present : Instant} {names : CharacterNames}
    {assembly : Assembly} (assembled : ofSettings settings present names = .ok assembly) :
    ∃ roomy, assembly.engine = .start (.empty names (cacheSize settings) roomy) present := by
  obtain ⟨⟨workers, size⟩, rfl, given, positive⟩ := ofSettings_eq_ok assembled
  unfold ofEvaluation cacheSize
  rw [← given]
  cases size with
  | none =>
      have roomy : 0 < Pattern.Cache.defaultCapacity := by decide
      exact ⟨roomy, rfl⟩
  | some size =>
      have roomy : 0 < size.toNat := positive size rfl
      refine ⟨roomy, ?_⟩
      simp only [Option.bind_some, Pattern.Cache.ofCapacity?, dif_pos roomy,
        Option.getD_some, Option.map_some]

end Assembly

end Criteria
