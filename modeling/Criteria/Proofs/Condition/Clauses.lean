import Criteria.Proofs.Condition.FirstFault
import Criteria.Proofs.Condition.Outcome

/-!
# Reached clauses

Which questions come up when a value is confronted with a condition, in the
order from left to right and from the outside to the inside, and what the
condition says of the value, by classical logic, if each of them has an answer.
-/

namespace Criteria

namespace Condition

/-- A question that comes up while a condition is decided. -/
inductive Clause where
  /-- A value is confronted with a condition, which has to have a shape. -/
  | shape (value condition : Value)
  /-- An operator is applied to a value and its operand. -/
  | operator (name : String) (value operand : Value)
  /-- A field that is not there is asked for its presence. -/
  | absence (operand : Value)
  /-- A mapping is asked for a field under a key that is no path. -/
  | notPath (key : Key)

theorem allOf_map (items : List α) (test : α → Bool) :
    allOf (items.map test) = items.all test := by
  rw [allOf, List.all_map]
  rfl

theorem anyOf_map (items : List α) (test : α → Bool) :
    anyOf (items.map test) = items.any test := by
  rw [anyOf, List.any_map]
  rfl

/-- The fault of a handler itself, the faults of nested conditions aside. -/
def ownFault? (setting : Setting) (value operand : Value) : Handler → Option Fault
  | .custom run => faultOf (run value operand)
  | .known .element =>
      match operand with
      | .mapping [] => some (.queryExpected .object)
      | .mapping entries =>
          if shapeOfEntries entries = .mixed then some .mixedQuery else none
      | other => some (.queryExpected other.kind)
  | .known operator => faultOf ((applyPlain operator value operand).outcome setting)

end Condition

namespace Setting

open Condition

/-- Why a clause fails by itself, if it does. -/
def fault? (setting : Setting) : Clause → Option Fault
  | .shape _ condition => faultOf (checkShape condition)
  | .operator name value operand =>
      match setting.handler? name with
      | some handler => ownFault? setting value operand handler
      | none => some (.unknownOperator name)
  | .absence operand => faultOf (flag operand)
  | .notPath _ => some (.crash .keyNotText)

end Setting

namespace Condition

section Reached

variable (setting : Setting)

mutual

/-- The clauses that are reached when a value is confronted with a condition. -/
def reached (value condition : Value) : List Clause :=
  match condition with
  | .mapping entries =>
      .shape value condition ::
        match shapeOfEntries entries with
        | .operators => reachedClauses value entries
        | _ => []
  | condition => [.shape value condition]
termination_by structural condition

/-- The entries of an operator map and what is reached through them. -/
def reachedClauses (value : Value) (clauses : List (Key × Value)) : List Clause :=
  match clauses with
  | [] => []
  | (key, operand) :: rest =>
      .operator key.label value operand ::
        (match setting.handler? key.label with
          | some (.known .conjunction) | some (.known .disjunction) =>
              match operand with
              | .list conditions | .tuple conditions => reachedEach value conditions
              | _ => []
          | some (.known .negation) =>
              match operand with
              | .mapping (_ :: _) => reached value operand
              | _ => []
          | some (.known .element) =>
              match operand with
              | .mapping entries =>
                  match shapeOfEntries entries, value.items? with
                  | .operators, some elements => elements.flatMap fun element =>
                      .shape element operand :: reachedClauses element entries
                  | .plain, some elements => elements.flatMap fun element =>
                      if element.entries?.isSome then reachedFields element entries else []
                  | _, _ => []
              | _ => []
          | _ => []) ++ reachedClauses value rest
termination_by structural clauses

/-- Every condition of a list. -/
def reachedEach (value : Value) (conditions : List Value) : List Clause :=
  match conditions with
  | [] => []
  | condition :: rest => reached value condition ++ reachedEach value rest
termination_by structural conditions

/-- The fields of a query whose paths lead somewhere or whose conditions ask for
presence alone. -/
def reachedFields (document : Value) (query : List (Key × Value)) : List Clause :=
  match query with
  | [] => []
  | (key, condition) :: rest =>
      (match key with
        | .text path =>
            match resolve document path with
            | .found value => reached value condition
            | .missing _ =>
                match presence? condition with
                | some operand => [.absence operand]
                | none => []
        | key => [.notPath key]) ++ reachedFields document rest
termination_by structural query

end

mutual

/-- Whether a value satisfies a condition, by classical logic. -/
def satisfies (value condition : Value) : Bool :=
  match condition with
  | .mapping entries =>
      match shapeOfEntries entries with
      | .operators => allOf (clauseTruths value entries)
      | _ => value.equal condition
  | condition => value.equal condition
termination_by structural condition

/-- The truth values of the entries of an operator map. -/
def clauseTruths (value : Value) (clauses : List (Key × Value)) : List Bool :=
  match clauses with
  | [] => []
  | (key, operand) :: rest =>
      (match setting.handler? key.label with
        | some (.custom run) => holds (Value.isTruthy <$> run value operand)
        | some (.known .conjunction) =>
            match operand with
            | .list conditions | .tuple conditions => allOf (truths value conditions)
            | _ => false
        | some (.known .disjunction) =>
            match operand with
            | .list conditions | .tuple conditions => anyOf (truths value conditions)
            | _ => false
        | some (.known .negation) =>
            match operand with
            | .mapping (_ :: _) => !satisfies value operand
            | _ => false
        | some (.known .element) =>
            match operand with
            | .mapping entries =>
                match shapeOfEntries entries, value.items? with
                | .operators, some elements => anyOf (elements.map fun element =>
                    allOf (clauseTruths element entries))
                | .plain, some elements => anyOf (elements.map fun element =>
                    element.entries?.isSome && allOf (fieldTruths element entries))
                | _, _ => false
            | _ => false
        | some (.known operator) =>
            holds ((applyPlain operator value operand).outcome setting)
        | none => false) :: clauseTruths value rest
termination_by structural clauses

/-- The truth values of a list of conditions. -/
def truths (value : Value) (conditions : List Value) : List Bool :=
  match conditions with
  | [] => []
  | condition :: rest => satisfies value condition :: truths value rest
termination_by structural conditions

/-- The truth values of the fields of a query, one that is not there being false
unless its condition asks for its absence. -/
def fieldTruths (document : Value) (query : List (Key × Value)) : List Bool :=
  match query with
  | [] => []
  | (key, condition) :: rest =>
      (match key with
        | .text path =>
            match resolve document path with
            | .found value => satisfies value condition
            | .missing _ =>
                match presence? condition with
                | some operand => holds (not <$> flag operand)
                | none => false
        | _ => false) :: fieldTruths document rest
termination_by structural query

end

/-- What is reached in an element of a collection by a query. -/
def reachedQuery (entries : List (Key × Value)) (element : Value) : List Clause :=
  match shapeOfEntries entries with
  | .operators =>
      .shape element (.mapping entries) :: reachedClauses setting element entries
  | .plain =>
      if element.entries?.isSome then reachedFields setting element entries else []
  | .mixed => []

/-- What is reached through a handler. -/
def nestedClauses (value operand : Value) : Handler → List Clause
  | .known .conjunction | .known .disjunction =>
      match operand.items? with
      | some conditions => reachedEach setting value conditions
      | none => []
  | .known .negation =>
      match operand with
      | .mapping (_ :: _) => reached setting value operand
      | _ => []
  | .known .element =>
      match operand, value.items? with
      | .mapping entries, some elements => elements.flatMap (reachedQuery setting entries)
      | _, _ => []
  | _ => []

/-- Whether an element of a collection satisfies a query. -/
def queryHolds (entries : List (Key × Value)) (element : Value) : Bool :=
  match shapeOfEntries entries with
  | .operators => allOf (clauseTruths setting element entries)
  | .plain => element.entries?.isSome && allOf (fieldTruths setting element entries)
  | .mixed => false

/-- What a handler says of a value and an operand by classical logic. -/
def handlerHolds (value operand : Value) : Handler → Bool
  | .custom run => holds (Value.isTruthy <$> run value operand)
  | .known .conjunction =>
      match operand.items? with
      | some conditions => allOf (truths setting value conditions)
      | none => false
  | .known .disjunction =>
      match operand.items? with
      | some conditions => anyOf (truths setting value conditions)
      | none => false
  | .known .negation =>
      match operand with
      | .mapping (_ :: _) => !satisfies setting value operand
      | _ => false
  | .known .element =>
      match operand, value.items? with
      | .mapping entries, some elements => elements.any (queryHolds setting entries)
      | _, _ => false
  | .known operator => holds ((applyPlain operator value operand).outcome setting)

theorem reachedClauses_cons (value : Value) (key : Key) (operand : Value)
    (rest : List (Key × Value)) :
    reachedClauses setting value ((key, operand) :: rest) =
      .operator key.label value operand ::
        (setting.handler? key.label).elim [] (nestedClauses setting value operand) ++
          reachedClauses setting value rest := by
  rw [reachedClauses.eq_def]
  dsimp only
  rw [List.cons_append]
  congr 2
  cases setting.handler? key.label with
  | none => rfl
  | some handler =>
      cases handler with
      | custom run => rfl
      | known operator =>
          cases operator with
          | element =>
              cases operand with
              | mapping entries =>
                  have query := funext fun element =>
                    reachedQuery.eq_1 setting entries element
                  cases shape : shapeOfEntries entries <;>
                    cases elements : value.items? <;>
                    simp [nestedClauses, query, shape, elements]
              | _ => rfl
          | negation =>
              rcases operand with _ | _ | _ | _ | _ | _ | _ | _ | (_ | _) <;> rfl
          | _ => cases operand <;> rfl

theorem clauseTruths_cons (value : Value) (key : Key) (operand : Value)
    (rest : List (Key × Value)) :
    clauseTruths setting value ((key, operand) :: rest) =
      (setting.handler? key.label).elim false (handlerHolds setting value operand) ::
        clauseTruths setting value rest := by
  rw [clauseTruths.eq_def]
  dsimp only
  congr 1
  cases setting.handler? key.label with
  | none => rfl
  | some handler =>
      cases handler with
      | custom run => rfl
      | known operator =>
          cases operator with
          | element =>
              cases operand with
              | mapping entries =>
                  have query := funext fun element =>
                    queryHolds.eq_1 setting entries element
                  cases shape : shapeOfEntries entries <;>
                    cases elements : value.items? <;>
                    simp [handlerHolds, query, shape, elements, anyOf_map]
              | _ => rfl
          | negation =>
              rcases operand with _ | _ | _ | _ | _ | _ | _ | _ | (_ | _) <;> rfl
          | _ => cases operand <;> rfl

/-- What is reached through a field of a query. -/
def fieldClauses (document : Value) (key : Key) (condition : Value) : List Clause :=
  match key with
  | .text path =>
      match resolve document path with
      | .found value => reached setting value condition
      | .missing _ =>
          match presence? condition with
          | some operand => [.absence operand]
          | none => []
  | key => [.notPath key]

/-- Whether a document has a field that satisfies its condition. -/
def fieldHolds (document : Value) (key : Key) (condition : Value) : Bool :=
  match key with
  | .text path =>
      match resolve document path with
      | .found value => satisfies setting value condition
      | .missing _ =>
          match presence? condition with
          | some operand => holds (not <$> flag operand)
          | none => false
  | _ => false

theorem reachedFields_cons (document : Value) (key : Key) (condition : Value)
    (rest : List (Key × Value)) :
    reachedFields setting document ((key, condition) :: rest) =
      fieldClauses setting document key condition ++
        reachedFields setting document rest := by
  rw [reachedFields.eq_def]
  cases key <;> rfl

theorem fieldTruths_cons (document : Value) (key : Key) (condition : Value)
    (rest : List (Key × Value)) :
    fieldTruths setting document ((key, condition) :: rest) =
      fieldHolds setting document key condition ::
        fieldTruths setting document rest := by
  rw [fieldTruths.eq_def]
  cases key <;> rfl

theorem reachedEach_eq_flatMap (value : Value) (conditions : List Value) :
    reachedEach setting value conditions =
      conditions.flatMap (reached setting value) := by
  induction conditions with
  | nil => rfl
  | cons condition rest induction =>
      rw [reachedEach, List.flatMap_cons, induction]

theorem reachedClauses_eq_flatMap (value : Value) (clauses : List (Key × Value)) :
    reachedClauses setting value clauses = clauses.flatMap fun clause =>
      .operator clause.1.label value clause.2 ::
        (setting.handler? clause.1.label).elim []
          (nestedClauses setting value clause.2) := by
  induction clauses with
  | nil => rfl
  | cons clause rest induction =>
      rw [reachedClauses_cons, List.flatMap_cons, induction]

theorem truths_eq_map (value : Value) (conditions : List Value) :
    truths setting value conditions = conditions.map (satisfies setting value) := by
  induction conditions with
  | nil => rfl
  | cons condition rest induction =>
      rw [truths, List.map_cons, induction]

theorem clauseTruths_eq_map (value : Value) (clauses : List (Key × Value)) :
    clauseTruths setting value clauses = clauses.map fun clause =>
      (setting.handler? clause.1.label).elim false
        (handlerHolds setting value clause.2) := by
  induction clauses with
  | nil => rfl
  | cons clause rest induction =>
      rw [clauseTruths_cons, List.map_cons, induction]

/-- A map of operators is satisfied if and only if each of them says so. -/
theorem satisfies_operators (value : Value) {entries : List (Key × Value)}
    (operators : shapeOfEntries entries = .operators) :
    satisfies setting value (.mapping entries) =
      entries.all fun entry => (setting.handler? entry.1.label).elim false
        (handlerHolds setting value entry.2) := by
  rw [satisfies, operators, clauseTruths_eq_map, allOf_map]

theorem handlerHolds_conjunction (value : Value) {operand : Value}
    {conditions : List Value} (held : operand.items? = some conditions) :
    handlerHolds setting value operand (.known .conjunction) =
      conditions.all (satisfies setting value) := by
  simp only [handlerHolds, held, truths_eq_map, allOf_map]

theorem handlerHolds_disjunction (value : Value) {operand : Value}
    {conditions : List Value} (held : operand.items? = some conditions) :
    handlerHolds setting value operand (.known .disjunction) =
      conditions.any (satisfies setting value) := by
  simp only [handlerHolds, held, truths_eq_map, anyOf_map]

theorem handlerHolds_negation (value : Value) (entry : Key × Value)
    (entries : List (Key × Value)) :
    handlerHolds setting value (.mapping (entry :: entries)) (.known .negation) =
      !satisfies setting value (.mapping (entry :: entries)) :=
  rfl

end Reached

end Condition

end Criteria
