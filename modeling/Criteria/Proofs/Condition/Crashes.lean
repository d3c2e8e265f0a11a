import Criteria.Proofs.Condition.Answers
import Criteria.Proofs.Condition.Table
import Criteria.Proofs.Operator.Refusals

/-!
# Crashes of clauses

In the full table, a clause crashes by itself only if it compares a date-time text
with a large offset, or searches for a pattern that counts too far or is put into
modes that exclude each other.  A key that is no path is only come across within
the query of an element clause that is asked of a mapping.  All other faults are
ordinary, and their texts cannot be mistaken for those of crashes.
-/

namespace Criteria

namespace Fault

/-- The fault is neither a crash nor given by an added operator. -/
def Ordinary : Fault → Prop
  | .refused _ | .crash _ => False
  | _ => True

end Fault

namespace Operator

theorem name_begins (operator : Operator) :
    ∃ rest, operator.name = "$" ++ String.ofList rest := by
  refine ⟨operator.name.toList.tail, ?_⟩
  cases operator <;> decide

end Operator

namespace Fault

variable {fault : Fault}

/-- With what the texts of ordinary faults begin: a kind of problem, or the dollar
sign of an operator. -/
def beginnings : List String :=
  ["Unknown", "$", "Condition", "Invalid"]

theorem Ordinary.reason_begins (ordinary : fault.Ordinary) :
    ∃ beginning ∈ beginnings, beginning.toList <+: fault.reason.toList := by
  unfold beginnings
  cases fault with
  | refused reason | crash cause => cases ordinary
  | unknownOperator name => exact ⟨"Unknown", by simp, by unfold reason; simp⟩
  | mixedCondition keys => exact ⟨"Condition", by simp, by unfold reason; simp⟩
  | patternExpected operand => exact ⟨"Invalid", by simp, by unfold reason; simp⟩
  | malformedPattern pattern malformation =>
      exact ⟨"Invalid", by simp, by unfold reason; simp⟩
  | incomparable operator | listExpected operator =>
      obtain ⟨letters, named⟩ := operator.name_begins
      exact ⟨"$", by simp, by unfold reason; simp [named]⟩
  | _ => exact ⟨"$", by simp, by unfold reason; simp⟩

theorem Ordinary.reason_ne (ordinary : fault.Ordinary) {text : String}
    (other : ∀ beginning ∈ beginnings, ¬beginning.toList <+: text.toList) :
    fault.reason ≠ text := by
  rintro rfl
  obtain ⟨beginning, member, begins⟩ := ordinary.reason_begins
  exact other beginning member begins

/-- A crash is told from an ordinary fault by its text. -/
theorem Ordinary.reason_ne_crash (ordinary : fault.Ordinary) (kind : String) :
    fault.reason ≠ "Internal error during evaluation: " ++ kind :=
  ordinary.reason_ne (by simp [beginnings])

end Fault

namespace IsoText

theorem ofLocal_eq_offsetTooLarge {day seconds : Int} {time : TimeOfDay}
    (tooLarge : ofLocal day time seconds = .offsetTooLarge) :
    86400 ≤ seconds.natAbs := by
  unfold ofLocal UtcOffset.ofSeconds? at tooLarge
  split at tooLarge
  · cases tooLarge
  · split at tooLarge
    · cases tooLarge
    · next notRead =>
        split at notRead
        · cases notRead
        · omega

/-- A day and a time of day, with an offset from universal time of a day or more. -/
def LargeOffset (chars : List Char) : Prop :=
  ∃ date separator clock style day time seconds,
    chars = date ++ separator :: clock ∧ day? date = some (style, day) ∧
      clock? style clock = some (time, seconds) ∧ 86400 ≤ seconds.natAbs

theorem largeOffset_of_read {chars : List Char}
    (tooLarge : read chars = .offsetTooLarge) : LargeOffset chars := by
  unfold read at tooLarge
  dsimp only at tooLarge
  split at tooLarge
  · cases tooLarge
  · cases tooLarge
  · next style day separator clock dayRead clockLeft =>
      split at tooLarge
      · next time seconds clockRead =>
          refine ⟨_, separator, clock, style, day, time, seconds, ?_, dayRead,
            clockRead, ofLocal_eq_offsetTooLarge tooLarge⟩
          rw [← clockLeft]
          exact (List.takeWhile_append_dropWhile ..).symm
      · cases tooLarge

end IsoText

namespace Value

/-- The value is a text of a date-time whose offset is a day or more. -/
def HasLargeOffset : Value → Prop
  | .text written => IsoText.LargeOffset (stripBlanks written.toList)
  | _ => False

theorem OffsetTooLarge.hasLargeOffset {value : Value} (tooLarge : value.OffsetTooLarge) :
    value.HasLargeOffset := by
  cases value with
  | text written => exact IsoText.largeOffset_of_read tooLarge
  | _ => cases tooLarge

end Value

namespace Condition

/-- The clause does not ask for a field under a key that is no path. -/
def Clause.AsksPath : Clause → Prop
  | .notPath _ => False
  | _ => True

/-- The crashes that a clause is open to: of itself, or of the query that it asks
of the elements of a collection. -/
inductive Clause.OpenTo (names : CharacterNames) : Clause → Crash → Prop where
  | largeOffset {operator : Operator} {value operand : Value} :
      operator ∈ [.dateBefore, .dateAfter] →
      value.HasLargeOffset ∨ operand.HasLargeOffset →
      OpenTo names (.operator operator.name value operand) .offsetTooLarge
  | largeRepeatCount {value : Value} {pattern : String} :
      Pattern.compile names pattern = .error .repeatCountTooLarge →
      OpenTo names (.operator Operator.regex.name value (.text pattern)) .repeatCountTooLarge
  | longRepeatCount {value : Value} {pattern : String} :
      Pattern.compile names pattern = .error .repeatCountTooLong →
      OpenTo names (.operator Operator.regex.name value (.text pattern)) .repeatCountTooLong
  | bothModes {value : Value} {pattern : String} :
      Pattern.compile names pattern = .error .incompatibleModes →
      OpenTo names (.operator Operator.regex.name value (.text pattern)) .incompatibleModes
  | notPath {value : Value} {query : List (Key × Value)} {elements : List Value} :
      shapeOfEntries query = .plain → (∃ field ∈ query, ∀ path, field.1 ≠ .text path) →
      value.items? = some elements → (∃ element ∈ elements, element.entries?.isSome) →
      OpenTo names (.operator Operator.element.name value (.mapping query)) .keyNotText

/-- The fault is ordinary, or it is a crash that the clause is open to by itself. -/
def Clause.AccountsFor (names : CharacterNames) (clause : Clause) (fault : Fault) : Prop :=
  fault.Ordinary ∨
    ∃ cause, fault = .crash cause ∧ cause ≠ .keyNotText ∧ clause.OpenTo names cause

section Plain

variable {setting : Setting} {value operand : Value} {fault known : Fault}

theorem accountsFor_of_failsExactly {names : CharacterNames} {clause : Clause}
    {result : Except Fault Bool} {condition : Prop} (exact : FailsExactly result known condition)
    (ordinary : known.Ordinary) (failed : result = .error fault) :
    clause.AccountsFor names fault := by
  rw [exact.fault_eq failed]
  exact .inl ordinary

theorem accountsFor_of_date {operator : Operator}
    (member : operator ∈ [.dateBefore, .dateAfter])
    (failed : (applyPlain operator value operand).outcome setting = .error fault) :
    Clause.AccountsFor setting.names (.operator operator.name value operand) fault := by
  have exact := @date_failsExactly setting operator member value operand
  have tooLarge := exact.condition_of_error failed
  have hasLarge := tooLarge.imp Value.OffsetTooLarge.hasLargeOffset
    Value.OffsetTooLarge.hasLargeOffset
  exact .inr ⟨_, exact.fault_eq failed, nofun, .largeOffset member hasLarge⟩

theorem accountsFor_of_matchesPattern
    (failed : (matchesPattern value operand).outcome setting = .error fault) :
    Clause.AccountsFor setting.names (.operator Operator.regex.name value operand) fault := by
  obtain ⟨noText, ofText⟩ := @outcome_matchesPattern_cases setting value operand
  by_cases text : ∃ pattern, operand = .text pattern
  · obtain ⟨pattern, rfl⟩ := text
    obtain ⟨rejected, compiled⟩ := ofText pattern rfl
    cases compilation : Pattern.compile setting.names pattern with
    | ok result =>
        obtain ⟨answer, answered⟩ := compiled result compilation
        rw [answered] at failed
        cases failed
    | error rejection =>
        rw [rejected rejection compilation] at failed
        cases failed
        cases rejection with
        | malformed malformation => exact .inl trivial
        | repeatCountTooLarge =>
            exact .inr ⟨_, rfl, nofun, .largeRepeatCount compilation⟩
        | repeatCountTooLong =>
            exact .inr ⟨_, rfl, nofun, .longRepeatCount compilation⟩
        | incompatibleModes => exact .inr ⟨_, rfl, nofun, .bothModes compilation⟩
  · rw [noText text] at failed
    cases failed
    exact .inl trivial

theorem accountsFor_of_applyPlain {operator : Operator}
    (failed : (applyPlain operator value operand).outcome setting = .error fault) :
    Clause.AccountsFor setting.names (.operator operator.name value operand) fault := by
  cases operator with
  | greater | greaterOrEqual | less | lessOrEqual =>
      exact accountsFor_of_failsExactly (order_failsExactly (by decide) value operand)
        trivial failed
  | isIn | isNotIn | containsAll =>
      exact accountsFor_of_failsExactly
        (membership_failsExactly (by decide) value operand) trivial failed
  | size =>
      exact accountsFor_of_failsExactly (Value.hasSize_failsExactly value operand)
        trivial failed
  | present =>
      exact accountsFor_of_failsExactly (flag_failsExactly operand) trivial failed
  | kind =>
      exact accountsFor_of_failsExactly (hasKind_failsExactly value operand) trivial
        failed
  | dateBefore => exact accountsFor_of_date List.mem_cons_self failed
  | dateAfter =>
      exact accountsFor_of_date (List.mem_cons_of_mem _ List.mem_cons_self) failed
  | regex => exact accountsFor_of_matchesPattern failed
  | equal | notEqual | between | contains | startsWith | endsWith
  | element | conjunction | disjunction | negation => cases failed

end Plain

/-- In the full table a search for a refused pattern fails as its compilation does. -/
theorem fault?_refused_pattern {names : CharacterNames} (present : Instant) (value : Value)
    {pattern : String} {rejection : Pattern.Rejection}
    (refused : Pattern.compile names pattern = .error rejection) :
    (Setting.known names present).fault? (.operator Operator.regex.name value (.text pattern)) =
      some (.ofRejection pattern rejection) := by
  simp only [Setting.fault?, Setting.handler?_known_name]
  exact faultOf_eq_some_iff.mpr
    (((outcome_matchesPattern_cases value (.text pattern)).2 pattern rfl).1 rejection refused)

/-- In the full table every clause accounts for its fault, unless it asks for a
field under a key that is no path. -/
theorem accountsFor_of_fault? {names : CharacterNames} {present : Instant}
    {clause : Clause} {fault : Fault} (asksPath : clause.AsksPath)
    (failed : (Setting.known names present).fault? clause = some fault) :
    clause.AccountsFor names fault := by
  cases clause with
  | notPath key => cases asksPath
  | absence operand =>
      exact accountsFor_of_failsExactly (flag_failsExactly operand) trivial
        (faultOf_eq_some_iff.mp failed)
  | shape value condition =>
      simp only [Setting.fault?, faultOf_eq_some_iff] at failed
      unfold checkShape at failed
      split at failed
      · split at failed
        · cases failed
          exact .inl trivial
        · cases failed
      · cases failed
  | operator name value operand =>
      simp only [Setting.fault?, Setting.handler?_known] at failed
      cases found : Operator.ofName? name with
      | none =>
          rw [found] at failed
          cases failed
          exact .inl trivial
      | some operator =>
          obtain rfl := Operator.name_of_ofName? found
          rw [found] at failed
          change ownFault? _ value operand (.known operator) = some fault at failed
          by_cases structural : operator = .element
          · subst structural
            simp only [ownFault?] at failed
            split at failed
            · cases failed
              exact .inl trivial
            · split at failed
              · cases failed
                exact .inl trivial
              · cases failed
            · cases failed
              exact .inl trivial
          · have plain : ownFault? (.known names present) value operand (.known operator) =
                faultOf ((applyPlain operator value operand).outcome
                  (.known names present)) := by
              cases operator <;> first | rfl | exact absurd rfl structural
            rw [plain, faultOf_eq_some_iff] at failed
            exact accountsFor_of_applyPlain failed

section Keys

variable {names : CharacterNames}

/-- No clause asks for a field under a key that is no path, unless an element
clause that is open to this comes before it. -/
def Guarded (names : CharacterNames) : List Clause → Prop
  | [] => True
  | clause :: rest => clause.OpenTo names .keyNotText ∨ (clause.AsksPath ∧ Guarded names rest)

theorem Guarded.append {first second : List Clause} (firstGuarded : Guarded names first)
    (secondGuarded : Guarded names second) : Guarded names (first ++ second) := by
  induction first with
  | nil => exact secondGuarded
  | cons clause first induction =>
      exact firstGuarded.imp id fun ⟨asksPath, rest⟩ => ⟨asksPath, induction rest⟩

theorem Guarded.flatMap {items : List α} {clauses : α → List Clause}
    (guarded : ∀ item ∈ items, Guarded names (clauses item)) :
    Guarded names (items.flatMap clauses) := by
  induction items with
  | nil => trivial
  | cons item items induction =>
      obtain ⟨first, later⟩ := List.forall_mem_cons.mp guarded
      rw [List.flatMap_cons]
      exact first.append (induction later)

theorem Guarded.openTo_of_not_asksPath {before after : List Clause} {clause : Clause}
    (guarded : Guarded names (before ++ clause :: after)) (noPath : ¬clause.AsksPath) :
    ∃ earlier ∈ before ++ [clause], earlier.OpenTo names .keyNotText := by
  induction before with
  | nil =>
      rcases guarded with openTo | ⟨asksPath, -⟩
      · exact ⟨clause, List.mem_cons_self, openTo⟩
      · exact absurd asksPath noPath
  | cons first before induction =>
      rcases guarded with openTo | ⟨-, later⟩
      · exact ⟨first, List.mem_cons_self, openTo⟩
      · obtain ⟨earlier, member, openTo⟩ := induction later
        exact ⟨earlier, List.mem_cons_of_mem first member, openTo⟩

variable {present : Instant}

/-- Conditions only lead to guarded clauses, and so do fields under paths. -/
def guarding (names : CharacterNames) (present : Instant) : Motive where
  condition condition := ∀ value, Guarded names (reached (.known names present) value condition)
  clauses clauses := ∀ value, Guarded names (reachedClauses (.known names present) value clauses)
  each conditions := ∀ value, Guarded names (reachedEach (.known names present) value conditions)
  fields fields := (∀ field ∈ fields, ∃ path, field.1 = .text path) →
    ∀ document, Guarded names (reachedFields (.known names present) document fields)

/-- The query of an element clause that is not open to it has paths alone, once it
is asked of a mapping. -/
theorem paths_of_not_openTo {value : Value} {query : List (Key × Value)}
    (notOpen : ¬Clause.OpenTo names
      (.operator Operator.element.name value (.mapping query)) .keyNotText)
    (plain : shapeOfEntries query = .plain) {elements : List Value}
    (held : value.items? = some elements) {element : Value}
    (member : element ∈ elements) (isMapping : element.entries?.isSome) :
    ∀ field ∈ query, ∃ path, field.1 = .text path := by
  intro field inQuery
  cases named : field.1 with
  | text path => exact ⟨path, rfl⟩
  | _ =>
      have noPath : ∀ path, field.1 ≠ .text path := by simp [named]
      exact absurd (.notPath plain ⟨field, inQuery, noPath⟩ held
        ⟨element, member, isMapping⟩) notOpen

/-- An element clause guards what its query comes across. -/
theorem guarded_element {operand : Value} (parts : (guarding names present).Parts operand)
    (value : Value) {rest : List Clause} (restGuarded : Guarded names rest) :
    Guarded names (.operator Operator.element.name value operand ::
      (nestedClauses (.known names present) value operand (.known .element) ++ rest)) := by
  -- An open clause guards whatever follows; a closed one has nothing to guard.
  by_cases openTo : Clause.OpenTo names
      (.operator Operator.element.name value operand) .keyNotText
  · exact .inl openTo
  refine .inr ⟨trivial, .append ?_ restGuarded⟩
  unfold nestedClauses
  dsimp only
  split
  · next entries elements held =>
      refine .flatMap fun element member => ?_
      unfold reachedQuery
      split
      · exact .inr ⟨trivial, parts.clauses entries rfl element⟩
      · next plain =>
          split
          · next isMapping =>
              have paths := paths_of_not_openTo openTo plain held member isMapping
              exact parts.fields entries rfl paths element
          · trivial
      · trivial
  · trivial

theorem guarded_handler {operand : Value} (parts : (guarding names present).Parts operand)
    (value : Value) {name : String} {operator : Operator}
    (named : Operator.ofName? name = some operator) {rest : List Clause}
    (restGuarded : Guarded names rest) :
    Guarded names (.operator name value operand ::
      (nestedClauses (.known names present) value operand (.known operator) ++ rest)) := by
  obtain rfl := Operator.name_of_ofName? named
  cases operator with
  | element => exact guarded_element parts value restGuarded
  | conjunction | disjunction =>
      refine .inr ⟨trivial, .append ?_ restGuarded⟩
      unfold nestedClauses
      dsimp only
      split
      · exact parts.each _ ‹_› value
      · trivial
  | negation =>
      refine .inr ⟨trivial, .append ?_ restGuarded⟩
      unfold nestedClauses
      dsimp only
      split
      · exact parts.condition value
      · trivial
  | _ => exact .inr ⟨trivial, restGuarded⟩

theorem guarding_hereditary (names : CharacterNames) (present : Instant) :
    (guarding names present).Hereditary where
  atom condition noMapping value := by
    cases condition with
    | mapping entries => cases noMapping
    | _ => exact .inr ⟨trivial, trivial⟩
  mapping entries clausesGuarded value := by
    rw [reached]
    refine .inr ⟨trivial, ?_⟩
    split
    · exact clausesGuarded value
    · trivial
  clausesNil value := trivial
  clausesCons key operand rest parts restGuarded value := by
    rw [reachedClauses_cons, List.cons_append, Setting.handler?_known]
    cases named : Operator.ofName? key.label with
    | none => exact .inr ⟨trivial, restGuarded value⟩
    | some operator => exact guarded_handler parts value named (restGuarded value)
  eachNil value := trivial
  eachCons condition rest conditionGuarded restGuarded value := by
    rw [reachedEach]
    exact (conditionGuarded value).append (restGuarded value)
  fieldsNil _ document := trivial
  fieldsCons key condition rest conditionGuarded restGuarded paths document := by
    obtain ⟨⟨path, named⟩, otherPaths⟩ := List.forall_mem_cons.mp paths
    obtain rfl : key = .text path := named
    rw [reachedFields_cons]
    refine .append ?_ (restGuarded otherPaths document)
    simp only [fieldClauses]
    split
    · exact conditionGuarded _
    · split
      · exact .inr ⟨trivial, trivial⟩
      · trivial

/-- A first fault among the clauses of fields under paths is ordinary, or it is a
crash that this clause or one before it is open to. -/
theorem openTo_of_first_fault {document : Value} {fields : List (Key × Value)}
    (paths : ∀ field ∈ fields, ∃ path, field.1 = .text path)
    {before after : List Clause} {clause : Clause} {fault : Fault}
    (split : reachedFields (.known names present) document fields = before ++ clause :: after)
    (failed : (Setting.known names present).fault? clause = some fault) :
    fault.Ordinary ∨ ∃ cause, fault = .crash cause ∧
      ∃ earlier ∈ before ++ [clause], earlier.OpenTo names cause := by
  by_cases asksPath : clause.AsksPath
  · refine (accountsFor_of_fault? asksPath failed).imp id ?_
    rintro ⟨cause, crashed, -, openTo⟩
    exact ⟨cause, crashed, clause, by simp, openTo⟩
  -- Not the clause itself is to blame, but the query that has led to its key.
  · have guarded : Guarded names (before ++ clause :: after) := by
      rw [← split]
      exact (guarding_hereditary names present).fields fields paths document
    cases clause with
    | notPath key =>
        cases failed
        exact .inr ⟨_, rfl, guarded.openTo_of_not_asksPath asksPath⟩
    | _ => exact absurd trivial asksPath

end Keys

end Condition

end Criteria
