import Criteria.Proofs.Engine.Assembly
import Criteria.Proofs.Unicode.UpperCase
import Criteria.Schema.Container

/-!
# Settings on their way

Settings that were read are passed on as a value.  Read again, by the reader of settings
or by the one that puts a container together, they are the same settings: their counts
are whole numbers from one on, and their level is in capitals already.
-/

namespace Criteria

namespace Schema

/-- The count that a field stands for: none if it is left out or null, and otherwise the
number in it, which is at least one. -/
inductive CountOf (location : List Step) : Option Value → Option Int → Prop where
  | leftOut : CountOf location none none
  | null : CountOf location (some .null) none
  | given {value : Value} {count : Int} (read : readInteger location value = .ok count)
      (positive : 1 ≤ count) : CountOf location (some value) (some count)

variable {location : List Step} {name : String} {entries : List (Key × Value)}

theorem CountOf.positive {field : Option Value} {count? : Option Int}
    (stands : CountOf location field count?) : ∀ count ∈ count?, 1 ≤ count := by
  rintro count member
  cases stands with
  | given read positive =>
      cases member
      exact positive
  | _ => cases member

theorem countOf_integer {count? : Option Int} (positive : ∀ count ∈ count?, 1 ≤ count) :
    CountOf location (count?.map Value.integer) count? := by
  cases count? with
  | none => exact .leftOut
  | some count => exact .given rfl (positive count rfl)

theorem readCount_eq_ok_iff {count? : Option Int} :
    readCount location name entries = .ok count? ↔
      CountOf (location ++ [.name name]) (field? name entries) count? := by
  unfold readCount
  generalize location ++ [.name name] = inside
  dsimp only
  constructor
  · intro read
    split at read
    · next field =>
        cases read
        exact field ▸ .leftOut
    · next field =>
        cases read
        exact field ▸ .null
    · next value given field =>
        rw [field]
        cases integer : readInteger inside value with
        | error issues => simp [integer, Bind.bind, Except.bind] at read
        | ok count =>
            simp only [integer, Bind.bind, Except.bind] at read
            by_cases small : count < 1
            · simp [small, refuse] at read
            · rw [if_neg small] at read
              cases read
              exact .given integer (Int.not_lt.mp small)
  · intro stands
    generalize field? name entries = field at stands
    cases stands with
    | leftOut => rfl
    | null => rfl
    | @given value count read positive =>
        have notNull : value ≠ .null := by
          rintro rfl
          cases read
        have big : ¬ count < 1 := Int.not_lt.mpr positive
        split
        · next field => cases field
        · next field =>
            cases field
            exact absurd rfl notNull
        · next value' given field =>
            cases field
            simp [read, big, Bind.bind, Except.bind]

theorem readEvaluation_eq_ok_iff {settings : EvaluationSettings} :
    readEvaluation location (.mapping entries) = .ok settings ↔
      CountOf (location ++ [.name "max_workers"]) (field? "max_workers" entries)
          settings.maxWorkers ∧
        CountOf (location ++ [.name "regex_cache_size"]) (field? "regex_cache_size" entries)
          settings.regexCacheSize := by
  rw [← readCount_eq_ok_iff, ← readCount_eq_ok_iff, readEvaluation]
  rcases settings with ⟨maxWorkers, regexCacheSize⟩
  cases readCount location "max_workers" entries with
  | error issues => simp
  | ok workers =>
      cases readCount location "regex_cache_size" entries with
      | error issues => simp
      | ok size => simp

/-- The value of a field of the settings of evaluations. -/
def givenCount? (name : String) (raw : Value) : Option Value :=
  (part? "evaluation" raw).bind (part? name)

/-- What is read of the settings of evaluations is what they stand for. -/
theorem countOf_of_readPart {settings : EvaluationSettings}
    (read : readPart readEvaluation "evaluation" entries = .ok settings) :
    CountOf [.name "evaluation", .name "max_workers"]
        (givenCount? "max_workers" (.mapping entries)) settings.maxWorkers ∧
      CountOf [.name "evaluation", .name "regex_cache_size"]
        (givenCount? "regex_cache_size" (.mapping entries)) settings.regexCacheSize := by
  unfold givenCount?
  change CountOf _ ((field? "evaluation" entries).bind _) _ ∧
    CountOf _ ((field? "evaluation" entries).bind _) _
  rw [readPart] at read
  cases given : field? "evaluation" entries with
  | none =>
      rw [given] at read
      cases read
      exact ⟨.leftOut, .leftOut⟩
  | some value =>
      rw [given, Option.getD_some] at read
      cases value with
      | mapping inner => exact readEvaluation_eq_ok_iff.mp read
      | _ => cases read

theorem upperCase_of_readPart {level : String}
    (read : readPart readLevel "logging" entries = .ok level) : upperCase level = level := by
  rw [readPart] at read
  generalize (field? "logging" entries).getD (.mapping []) = value at read
  cases value with
  | mapping inner =>
      rw [readLevel] at read
      split at read
      · cases read
        decide
      · next value given =>
          cases value with
          | text written =>
              cases read
              exact upperCase_upperCase written
          | _ => cases read
  | _ => cases read

end Schema

namespace EvaluationSettings

/-- Counts that are given are at least one. -/
structure Positive (settings : EvaluationSettings) : Prop where
  maxWorkers : ∀ count ∈ settings.maxWorkers, 1 ≤ count
  regexCacheSize : ∀ count ∈ settings.regexCacheSize, 1 ≤ count

variable {settings : EvaluationSettings}

theorem field?_maxWorkers_toEntries : Schema.field? "max_workers" settings.toEntries =
    settings.maxWorkers.map Value.integer := by
  rcases settings with ⟨_ | workers, _ | size⟩ <;> rfl

theorem field?_regexCacheSize_toEntries : Schema.field? "regex_cache_size" settings.toEntries =
    settings.regexCacheSize.map Value.integer := by
  rcases settings with ⟨_ | workers, _ | size⟩ <;> rfl

theorem all_named_toEntries (settings : EvaluationSettings) :
    (settings.toEntries.all fun entry => match entry.1 with | .text _ => true | _ => false) =
      true := by
  rcases settings with ⟨_ | workers, _ | size⟩ <;> rfl

theorem readEvaluation_toEntries (positive : settings.Positive)
    (location : List Schema.Step) :
    Schema.readEvaluation location (.mapping settings.toEntries) = .ok settings := by
  rw [Schema.readEvaluation_eq_ok_iff, field?_maxWorkers_toEntries,
    field?_regexCacheSize_toEntries]
  exact ⟨Schema.countOf_integer positive.maxWorkers,
    Schema.countOf_integer positive.regexCacheSize⟩

end EvaluationSettings

namespace Settings

variable {settings : Settings}

theorem ofValue_eq_ok_iff {entries : List (Key × Value)} :
    ofValue (.mapping entries) = .ok settings ↔
      Schema.readPart Schema.readEvaluation "evaluation" entries = .ok settings.evaluation ∧
        Schema.readPart Schema.readLevel "logging" entries = .ok settings.level := by
  rcases settings with ⟨evaluation, level⟩
  rw [ofValue]
  cases Schema.readPart Schema.readEvaluation "evaluation" entries with
  | error issues => simp
  | ok read =>
      cases Schema.readPart Schema.readLevel "logging" entries with
      | error issues => simp
      | ok readLevel => simp

/-- Settings that were read have positive counts, and a level in capitals. -/
structure Regular (settings : Settings) : Prop where
  positive : settings.evaluation.Positive
  capital : upperCase settings.level = settings.level

/-- What the settings of evaluations in a value stand for. -/
def Configures (raw : Value) (settings : EvaluationSettings) : Prop :=
  Schema.CountOf [.name "evaluation", .name "max_workers"]
      (Schema.givenCount? "max_workers" raw) settings.maxWorkers ∧
    Schema.CountOf [.name "evaluation", .name "regex_cache_size"]
      (Schema.givenCount? "regex_cache_size" raw) settings.regexCacheSize

theorem configures_of_ofValue {raw : Value} (loaded : ofValue raw = .ok settings) :
    Configures raw settings.evaluation ∧ settings.Regular := by
  cases raw with
  | mapping entries =>
      obtain ⟨evaluation, level⟩ := ofValue_eq_ok_iff.mp loaded
      have configures : Configures (.mapping entries) settings.evaluation :=
        Schema.countOf_of_readPart evaluation
      exact ⟨configures, ⟨configures.1.positive, configures.2.positive⟩,
        Schema.upperCase_of_readPart level⟩
  | _ => cases loaded

theorem exists_entries_passedOn (settings : Settings) :
    ∃ entries, settings.passedOn = .mapping entries ∧ entries ≠ [] ∧
      Schema.field? "logging" entries = some settings.levelValue ∧
      Schema.field? "evaluation" entries =
        if settings.evaluation.toEntries.isEmpty then none
        else some (.mapping settings.evaluation.toEntries) := by
  rcases settings with ⟨⟨_ | workers, _ | size⟩, level⟩ <;>
    exact ⟨_, rfl, by simp, rfl, rfl⟩

/-- Settings that are passed on are read again as they were. -/
theorem ofValue_passedOn (regular : settings.Regular) :
    ofValue settings.passedOn = .ok settings := by
  obtain ⟨entries, passedOn, -, logging, evaluation⟩ := exists_entries_passedOn settings
  rw [passedOn, ofValue_eq_ok_iff, Schema.readPart, Schema.readPart, logging, evaluation]
  constructor
  · have entriesRead := EvaluationSettings.readEvaluation_toEntries regular.positive
      [.name "evaluation"]
    split
    · next empty =>
        rw [List.isEmpty_iff] at empty
        rwa [empty] at entriesRead
    · exact entriesRead
  · exact congrArg Except.ok regular.capital

end Settings

namespace Assembly

theorem readPassedOn_of_passedOn {settings : Settings} (regular : settings.Regular)
    {entries : List (Key × Value)} (passedOn : settings.passedOn = .mapping entries) :
    readPassedOn entries = .ok settings.evaluation := by
  obtain ⟨_, same, -, -, evaluation⟩ := settings.exists_entries_passedOn
  cases passedOn.symm.trans same
  rw [readPassedOn, evaluation]
  have read := EvaluationSettings.readEvaluation_toEntries regular.positive []
  by_cases empty : settings.evaluation.toEntries.isEmpty = true
  · -- Nothing is passed on, which counts as null and has no reader.
    rw [if_pos empty]
    rw [List.isEmpty_iff.mp empty] at read
    exact congrArg Except.ok (Except.ok.inj read)
  · have truthy : (Value.mapping settings.evaluation.toEntries).isTruthy = true := by
      simpa [Value.isTruthy] using empty
    rw [if_neg empty, Option.getD_some, truthy, read]
    have named := settings.evaluation.all_named_toEntries
    simp only [Bool.not_true, Bool.false_eq_true, if_false]
    exact if_pos named

/-- An assembly is what the providers of the container amount to. -/
theorem ofEvaluation_eq (settings : EvaluationSettings) (present : Instant)
    (names : CharacterNames) :
    ofEvaluation settings present names =
      (Container.ofEvaluation settings).assembly present names := by
  rcases settings with ⟨_ | workers, _ | size⟩ <;> rfl

theorem ofSettings_eq (settings : Value) (present : Instant) (names : CharacterNames) :
    ofSettings settings present names =
      (Container.ofSettings settings).map (·.assembly present names) := by
  unfold ofSettings Container.ofSettings
  cases settings.isTruthy with
  | false => rfl
  | true =>
      cases settings with
      | mapping entries =>
          simp only [Bool.not_true, Bool.false_eq_true, if_false]
          cases readPassedOn entries with
          | ok evaluation =>
              exact congrArg Except.ok (ofEvaluation_eq evaluation present names)
          | error error => rfl
      | _ => rfl

end Assembly

namespace Container

/-- Settings that are passed on are always put into a container, with the counts that they
had. -/
theorem ofSettings_passedOn {settings : Settings} (regular : settings.Regular) :
    ofSettings settings.passedOn = .ok (ofEvaluation settings.evaluation) := by
  obtain ⟨entries, passedOn, given, -⟩ := settings.exists_entries_passedOn
  have truthy : (Value.mapping entries).isTruthy = true := by
    simpa [Value.isTruthy] using given
  rw [passedOn, ofSettings, truthy]
  simp only [Bool.not_true, Bool.false_eq_true, if_false,
    Assembly.readPassedOn_of_passedOn regular passedOn]
  rfl

end Container

end Criteria
