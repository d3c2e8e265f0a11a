import Criteria.Proofs.Condition.Answers
import Criteria.Proofs.Condition.Table

/-!
# Composition of conditions

Conjunctions, disjunctions and negations obey the laws of Boolean algebra, and not
only where all parts can be decided: both sides of a law ask the same questions in
the same order, and no answer keeps the next question from being asked, so that
they end in the same fault, if in any.
-/

namespace Criteria

namespace Condition

open Evaluation

/-- The condition with one clause of a known operator. -/
def ofOperator (operator : Operator) (operand : Value) : Value :=
  .mapping [(.text operator.name, operand)]

/-- Two conditions decide every value alike in the full table, faults included,
whatever the engines have been used for before. -/
def Equivalent (condition other : Value) : Prop :=
  ∀ (names : CharacterNames) (present : Instant) {engine later : Engine},
    engine.Serves (.known names present) → later.Serves (.known names present) → ∀ value,
      ((matchValue value condition).run.run engine).1 =
        ((matchValue value other).run.run later).1

theorem equivalent_of_outcome_eq {condition other : Value}
    (same : ∀ names present value,
      (matchValue value condition).outcome (.known names present) =
        (matchValue value other).outcome (.known names present)) :
    Equivalent condition other := by
  intro names present engine later serving laterServing value
  rw [(steady_matchValue value condition).result serving,
    (steady_matchValue value other).result laterServing]
  exact same names present value

section Results

/-- If each item yields a result with a function applied to it, then so does the
whole list. -/
theorem mapM_eq_map {items : List α} {step : α → Except Fault β}
    {changed : α → Except Fault γ} (function : β → γ)
    (each : ∀ item ∈ items, changed item = function <$> step item) :
    items.mapM changed = List.map function <$> items.mapM step := by
  induction items with
  | nil => rfl
  | cons item items induction =>
      obtain ⟨here, later⟩ := List.forall_mem_cons.mp each
      rw [List.mapM_cons, List.mapM_cons, here, induction later]
      cases step item with
      | error fault => rfl
      | ok result => cases items.mapM step <;> rfl

theorem not_allOf (results : List Bool) : (!allOf results) = anyOf (results.map not) := by
  rw [allOf, anyOf, List.not_all_eq_any_not, List.any_map]
  rfl

theorem not_anyOf (results : List Bool) : (!anyOf results) = allOf (results.map not) := by
  rw [allOf, anyOf, List.not_any_eq_all_not, List.all_map]
  rfl

/-- A nested list whose results are combined alike may be written out in its
place. -/
theorem map_mapM_nested {step : α → Except Fault Bool} {combine : List Bool → Bool}
    (associative : ∀ before inner after,
      combine (before ++ combine inner :: after) = combine (before ++ (inner ++ after)))
    (before inner after : List α) {nested : α}
    (combined : step nested = combine <$> inner.mapM step) :
    combine <$> (before ++ nested :: after).mapM step =
      combine <$> (before ++ (inner ++ after)).mapM step := by
  rw [List.mapM_append, List.mapM_append, List.mapM_append, List.mapM_cons, combined]
  cases before.mapM step with
  | error fault => rfl
  | ok first =>
      cases inner.mapM step with
      | error fault => rfl
      | ok results =>
          cases after.mapM step with
          | error fault => rfl
          | ok last => exact congrArg Except.ok (associative first results last)

theorem allOf_nested (before inner after : List Bool) :
    allOf (before ++ allOf inner :: after) = allOf (before ++ (inner ++ after)) := by
  simp [allOf]

theorem anyOf_nested (before inner after : List Bool) :
    anyOf (before ++ anyOf inner :: after) = anyOf (before ++ (inner ++ after)) := by
  simp [anyOf]

end Results

section Operators

variable {names : CharacterNames} {present : Instant} {value : Value}

/-- A clause under the key of an operator yields the same as a condition. -/
theorem outcome_single {setting : Setting} {clause : Key × Value}
    (operatorKey : isOperatorKey clause.1 = true) :
    (matchValue value (.mapping [clause])).outcome setting =
      clauseOutcome setting value clause := by
  have shape : shapeOfEntries [clause] = .operators := by
    simp [shapeOfEntries, operatorKey]
  rw [outcome_matchValue_mapping, shape]
  exact outcome_matchClauses_single value clause

theorem isOperatorKey_name (operator : Operator) :
    isOperatorKey (.text operator.name) = true := by
  cases operator <;> decide

theorem outcome_ofOperator (operator : Operator) (operand : Value) :
    (matchValue value (ofOperator operator operand)).outcome (.known names present) =
      (applyHandler value operand (.known operator)).outcome (.known names present) := by
  rw [ofOperator, outcome_single (isOperatorKey_name operator), clauseOutcome]
  simp only [Key.label, knownHandler, Setting.handler?_known_name]
  rfl

variable {conditions : List Value}

/-- The operator decides a collection of conditions by combining their results. -/
def Joins (operator : Operator) (combine : List Bool → Bool) : Prop :=
  ∀ (names : CharacterNames) (present : Instant) (value : Value) {operand : Value}
    {conditions : List Value}, operand.items? = some conditions →
      (matchValue value (ofOperator operator operand)).outcome (.known names present) =
        combine <$> conditions.mapM fun condition =>
          (matchValue value condition).outcome (.known names present)

theorem joins_conjunction : Joins .conjunction allOf := by
  intro names present value operand conditions held
  rw [outcome_ofOperator, outcome_conjunction, held, ← outcome_matchEach]

theorem joins_disjunction : Joins .disjunction anyOf := by
  intro names present value operand conditions held
  rw [outcome_ofOperator, outcome_disjunction, held, ← outcome_matchEach]

/-- A mapping with entries, which is all that a negation decides. -/
def Negatable (condition : Value) : Prop :=
  ∃ entry entries, condition = .mapping (entry :: entries)

theorem negatable_ofOperator (operator : Operator) (operand : Value) :
    Negatable (ofOperator operator operand) :=
  ⟨_, _, rfl⟩

theorem outcome_ofNegation {condition : Value} (negatable : Negatable condition) :
    (matchValue value (ofOperator .negation condition)).outcome (.known names present) =
      not <$> (matchValue value condition).outcome (.known names present) := by
  obtain ⟨entry, entries, rfl⟩ := negatable
  rw [outcome_ofOperator, outcome_negation]

/-- The negations of conditions yield their results negated, one by one. -/
theorem mapM_ofNegation (negatable : ∀ condition ∈ conditions, Negatable condition) :
    ((conditions.map (ofOperator .negation)).mapM fun condition =>
        (matchValue value condition).outcome (.known names present)) =
      List.map not <$> conditions.mapM fun condition =>
        (matchValue value condition).outcome (.known names present) := by
  rw [List.mapM_map]
  exact mapM_eq_map not fun condition member => outcome_ofNegation (negatable condition member)

end Operators

section Laws

variable {operator dual : Operator} {combine dualCombine : List Bool → Bool}
variable {operand negated : Value} {conditions : List Value}

/-- The negation of what an operator joins is what its dual joins of the negations. -/
theorem equivalent_negated (joins : Joins operator combine)
    (dualJoins : Joins dual dualCombine)
    (negates : ∀ results, (!combine results) = dualCombine (results.map not))
    (held : operand.items? = some conditions)
    (negatable : ∀ condition ∈ conditions, Negatable condition)
    (negatedHeld : negated.items? = some (conditions.map (ofOperator .negation))) :
    Equivalent (ofOperator .negation (ofOperator operator operand))
      (ofOperator dual negated) := by
  apply equivalent_of_outcome_eq
  intro names present value
  rw [outcome_ofNegation (negatable_ofOperator _ _), joins names present value held,
    dualJoins names present value negatedHeld, mapM_ofNegation negatable, Functor.map_map,
    Functor.map_map]
  exact congrArg (· <$> _) (funext negates)

theorem equivalent_negated_negation {condition : Value} (negatable : Negatable condition) :
    Equivalent (ofOperator .negation (ofOperator .negation condition)) condition := by
  apply equivalent_of_outcome_eq
  intro names present value
  rw [outcome_ofNegation (negatable_ofOperator _ _), outcome_ofNegation negatable]
  cases (matchValue value condition).outcome (.known names present) with
  | error fault => rfl
  | ok result => exact congrArg Except.ok (Bool.not_not result)

theorem isOperatorKey_of_shape {entries : List (Key × Value)}
    (operators : shapeOfEntries entries = .operators) :
    ∀ entry ∈ entries, isOperatorKey entry.1 = true := by
  unfold shapeOfEntries at operators
  split at operators
  · cases operators
  · split at operators
    · next all => exact List.all_eq_true.mp all
    · cases operators

/-- A map of operators is the conjunction of its clauses. -/
theorem equivalent_clauses {entries : List (Key × Value)}
    (operators : shapeOfEntries entries = .operators)
    (held : operand.items? = some (entries.map fun entry => .mapping [entry])) :
    Equivalent (.mapping entries) (ofOperator .conjunction operand) := by
  apply equivalent_of_outcome_eq
  intro names present value
  have operatorKeys := isOperatorKey_of_shape operators
  have single : ∀ entry ∈ entries, clauseOutcome (.known names present) value entry =
      id <$> (matchValue value (.mapping [entry])).outcome (.known names present) := by
    intro entry member
    rw [id_map, outcome_single (operatorKeys entry member)]
  rw [outcome_matchValue_mapping, operators, outcome_matchClauses, mapM_eq_map id single,
    joins_conjunction names present value held, List.mapM_map, List.map_id_fun, id_map]
  rfl

/-- What an operator joins among the conditions that it joins may be written out. -/
theorem equivalent_nested (joins : Joins operator combine)
    (associative : ∀ before inner after : List Bool,
      combine (before ++ combine inner :: after) = combine (before ++ (inner ++ after)))
    {whole flat inner : Value} {before after : List Value}
    (innerHeld : inner.items? = some conditions)
    (wholeHeld : whole.items? = some (before ++ ofOperator operator inner :: after))
    (flatHeld : flat.items? = some (before ++ (conditions ++ after))) :
    Equivalent (ofOperator operator whole) (ofOperator operator flat) := by
  apply equivalent_of_outcome_eq
  intro names present value
  rw [joins names present value wholeHeld, joins names present value flatHeld]
  exact map_mapM_nested associative before conditions after (joins names present value innerHeld)

end Laws

/-- The laws of Boolean composition hold with all faults.  In the full table,
negation turns conjunctions and disjunctions of mappings into each other and
cancels itself, a map of operators is the conjunction of its clauses, and nested
conjunctions or disjunctions may be written out in their places. -/
theorem matchValue_boolean_laws :
    (∀ (operand negated : Value) (conditions : List Value),
      operand.items? = some conditions → (∀ condition ∈ conditions, Negatable condition) →
      negated.items? = some (conditions.map (ofOperator .negation)) →
      Equivalent (ofOperator .negation (ofOperator .conjunction operand))
          (ofOperator .disjunction negated) ∧
        Equivalent (ofOperator .negation (ofOperator .disjunction operand))
          (ofOperator .conjunction negated)) ∧
    (∀ condition, Negatable condition →
      Equivalent (ofOperator .negation (ofOperator .negation condition)) condition) ∧
    (∀ (entries : List (Key × Value)) (operand : Value),
      shapeOfEntries entries = .operators →
      operand.items? = some (entries.map fun entry => .mapping [entry]) →
      Equivalent (.mapping entries) (ofOperator .conjunction operand)) ∧
    (∀ operator ∈ [Operator.conjunction, .disjunction],
      ∀ (whole flat inner : Value) (before conditions after : List Value),
      inner.items? = some conditions →
      whole.items? = some (before ++ ofOperator operator inner :: after) →
      flat.items? = some (before ++ (conditions ++ after)) →
      Equivalent (ofOperator operator whole) (ofOperator operator flat)) := by
  refine ⟨?_, fun condition => equivalent_negated_negation, ?_, ?_⟩
  · intro operand negated conditions held negatable negatedHeld
    exact ⟨equivalent_negated joins_conjunction joins_disjunction not_allOf held negatable
        negatedHeld,
      equivalent_negated joins_disjunction joins_conjunction not_anyOf held negatable
        negatedHeld⟩
  · intro entries operand operators held
    exact equivalent_clauses operators held
  · intro operator member whole flat inner before conditions after innerHeld wholeHeld flatHeld
    simp only [List.mem_cons, List.not_mem_nil, or_false] at member
    rcases member with rfl | rfl
    · exact equivalent_nested joins_conjunction allOf_nested innerHeld wholeHeld flatHeld
    · exact equivalent_nested joins_disjunction anyOf_nested innerHeld wholeHeld flatHeld

theorem matchValue_boolean_laws_of_mixed_condition :
    let engine := (Setting.known .standard default).engine
    let present := Value.mapping [(.text "$exists", .boolean true)]
    let mixed := Value.mapping [(.text "a", .integer 1), (.text "$b", .integer 2)]
    let unknown := Value.mapping [(.text "$near", .integer 1)]
    let conditions := [present, mixed, unknown]
    let disjunction :=
      ofOperator .disjunction (.tuple (conditions.map (ofOperator .negation)))
    (∀ condition ∈ conditions, Negatable condition) ∧
      ((matchValue (.integer 5) disjunction).run.run engine).1 =
        .error (.mixedCondition [.text "a", .text "$b"]) ∧
      Equivalent (ofOperator .negation (ofOperator .negation mixed)) mixed ∧
      Equivalent (.mapping [(.text "$exists", .boolean true), (.text "$near", .integer 1)])
        (ofOperator .conjunction (.list [present, unknown])) ∧
      Equivalent
        (ofOperator .disjunction (.list [present, ofOperator .disjunction (.list [mixed]),
          unknown]))
        (ofOperator .disjunction (.list conditions)) := by
  intro engine present mixed unknown conditions disjunction
  have serving : engine.Serves (.known .standard default) := Engine.serves_engine _
  have negatable : ∀ condition ∈ conditions, Negatable condition := by
    simp only [conditions, List.forall_mem_cons]
    exact ⟨⟨_, _, rfl⟩, ⟨_, _, rfl⟩, ⟨_, _, rfl⟩, nofun⟩
  obtain ⟨duality, involution, split, flattening⟩ := matchValue_boolean_laws
  have negated := (duality (.list conditions)
    (.tuple (conditions.map (ofOperator .negation))) conditions rfl negatable rfl).1
  refine ⟨negatable, ?_, involution mixed ⟨_, _, rfl⟩, ?_, ?_⟩
  · rw [← negated .standard default serving serving, (steady_matchValue _ _).result serving,
      outcome_matchValue]
    rfl
  · exact split _ _ (by decide) rfl
  · exact flattening .disjunction (by decide) _ _ (.list [mixed]) [present] [mixed] [unknown]
      rfl rfl rfl

end Condition

end Criteria
