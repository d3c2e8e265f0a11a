import Criteria.Proofs.Condition.Outcome

/-!
# Refusals of operators

Which values and operands an operator refuses, and with which fault.  Equality,
ranges and tests of texts refuse nothing; the others refuse what their family
cannot deal with.  Four faults are crashes: of texts whose offset from universal
time is a day or more, and of patterns that count too far, write a count in too many
digits, or are put into modes that exclude each other.
-/

namespace Criteria

/-- The result is a fault under a condition and an answer otherwise. -/
def FailsExactly (result : Except Fault Bool) (fault : Fault) (condition : Prop) : Prop :=
  (condition → result = .error fault) ∧ (¬condition → ∃ answer, result = .ok answer)

namespace FailsExactly

variable {result : Except Fault Bool} {fault other : Fault} {condition : Prop}

theorem of_error (failed : result = .error fault) (held : condition) :
    FailsExactly result fault condition :=
  ⟨fun _ => failed, fun missing => absurd held missing⟩

theorem of_ok {answer : Bool} (answered : result = .ok answer)
    (missing : ¬condition) : FailsExactly result fault condition :=
  ⟨fun held => absurd held missing, fun _ => ⟨answer, answered⟩⟩

theorem condition_of_error (exact : FailsExactly result fault condition)
    (failed : result = .error other) : condition := by
  refine Classical.byContradiction fun missing => ?_
  obtain ⟨answer, answered⟩ := exact.2 missing
  rw [answered] at failed
  cases failed

theorem fault_eq (exact : FailsExactly result fault condition)
    (failed : result = .error other) : other = fault := by
  have known := exact.1 (exact.condition_of_error failed)
  exact Except.error.inj (failed.symm.trans known)

theorem fails_iff (exact : FailsExactly result fault condition) :
    (∃ other, result = .error other) ↔ condition :=
  ⟨fun ⟨_, failed⟩ => exact.condition_of_error failed, fun held => ⟨fault, exact.1 held⟩⟩

end FailsExactly

namespace Value

variable {value operand : Value}

section Comparison

/-- Both values are numbers, or both are texts. -/
def Comparable (value operand : Value) : Prop :=
  (∃ number other, value = .number number ∧ operand = .number other) ∨
    ∃ text other, value = .text text ∧ operand = .text other

theorem orderable_iff : value.orderable operand = true ↔ value.Comparable operand := by
  unfold Comparable
  cases value <;> cases operand <;> simp [orderable]

theorem compareBy_failsExactly (operator : Operator)
    (relation : Value → Value → Bool) (value operand : Value) :
    FailsExactly (compareBy operator relation value operand)
      (.incomparable operator value.kind operand.kind) (¬value.Comparable operand) := by
  rw [← orderable_iff, compareBy]
  by_cases ordered : value.orderable operand = true
  · exact .of_ok (if_pos ordered) (not_not_intro ordered)
  · exact .of_error (if_neg ordered) ordered

end Comparison

section Collection

/-- The value is a list or a tuple. -/
def IsCollection (value : Value) : Prop :=
  ∃ items, value = .list items ∨ value = .tuple items

theorem exists_items?_iff : (∃ items, value.items? = some items) ↔ value.IsCollection := by
  unfold IsCollection
  cases value <;> simp [items?]

/-- An operator that asks for the items of its operand before anything else. -/
theorem requireItems_failsExactly (operator : Operator) (operand : Value)
    {next : List Value → Except Fault Bool}
    (answers : ∀ items, ∃ answer, next items = .ok answer) :
    FailsExactly (requireItems operator operand >>= next)
      (.listExpected operator operand.kind) (¬operand.IsCollection) := by
  rw [← exists_items?_iff, requireItems]
  cases held : operand.items? with
  | none => exact .of_error rfl nofun
  | some items =>
      obtain ⟨answer, answered⟩ := answers items
      exact .of_ok answered (not_not_intro ⟨items, rfl⟩)

theorem isIn_failsExactly (value operand : Value) :
    FailsExactly (value.isIn operand) (.listExpected .isIn operand.kind)
      (¬operand.IsCollection) :=
  requireItems_failsExactly .isIn operand fun _ => ⟨_, rfl⟩

theorem isNotIn_failsExactly (value operand : Value) :
    FailsExactly (value.isNotIn operand) (.listExpected .isNotIn operand.kind)
      (¬operand.IsCollection) :=
  requireItems_failsExactly .isNotIn operand fun _ => ⟨_, rfl⟩

theorem containsAll_failsExactly (value operand : Value) :
    FailsExactly (value.containsAll operand) (.listExpected .containsAll operand.kind)
      (¬operand.IsCollection) := by
  apply requireItems_failsExactly .containsAll operand
  intro required
  cases value.items? with
  | none => exact ⟨_, rfl⟩
  | some items => exact ⟨_, rfl⟩

theorem hasSize_failsExactly (value operand : Value) :
    FailsExactly (value.hasSize operand) (.integerExpected operand.kind)
      (¬∃ count, operand = .integer count) := by
  unfold hasSize
  split
  · next count =>
      have counted : ¬¬∃ other, number (.integer count) = .integer other :=
        not_not_intro ⟨count, rfl⟩
      cases value.items? with
      | none => exact .of_ok rfl counted
      | some items => exact .of_ok rfl counted
  · next noInteger => exact .of_error rfl fun ⟨count, integer⟩ => noInteger count integer

end Collection

section Moment

/-- The value is a text that ends in an offset from universal time which is read
but is too large for one. -/
def OffsetTooLarge : Value → Prop
  | .text written => IsoText.read (stripBlanks written.toList) = .offsetTooLarge
  | _ => False

theorem not_isDigit_of_toLower {char : Char} (lower : char.toLower = 'n') :
    IsoText.digitValue? char = none := by
  unfold IsoText.digitValue?
  rw [if_neg]
  rintro ⟨atLeast, atMost⟩
  have notUpper : char.toLower = char := by
    refine dif_neg ?_
    rintro ⟨capital, -⟩
    have between := Nat.le_trans capital atMost
    revert between
    decide
  rw [notUpper] at lower
  subst lower
  revert atMost
  decide

/-- The word for the present is no date. -/
theorem read_of_isPresentWord {chars : List Char} (word : isPresentWord chars = true) :
    IsoText.read chars = .unreadable := by
  match chars with
  | [] => rfl
  | first :: rest =>
      have letters : (first :: rest).map Char.toLower = ['n', 'o', 'w'] := by
        simpa [isPresentWord] using word
      have noDigit : IsoText.digitValue? first = none :=
        not_isDigit_of_toLower (List.cons.inj letters).1
      have noDay : IsoText.day? ((first :: rest).takeWhile fun char =>
          !IsoText.isSeparator char) = none := by
        rw [List.takeWhile_cons]
        split
        · simp [IsoText.day?, IsoText.digits, IsoText.digitsFrom, noDigit]
        · rfl
      unfold IsoText.read
      simp only [noDay]

theorem moment_failing_or_answering (present : Instant) (value : Value) :
    (value.OffsetTooLarge ∧ value.moment present = .error (.crash .offsetTooLarge)) ∨
      ¬value.OffsetTooLarge ∧ ∃ moment, value.moment present = .ok moment := by
  cases value with
  | text written =>
      simp only [OffsetTooLarge, moment, textMoment]
      by_cases word : isPresentWord (stripBlanks written.toList) = true
      · rw [read_of_isPresentWord word, if_pos word]
        exact .inr ⟨by simp, _, rfl⟩
      · rw [if_neg word]
        cases IsoText.read (stripBlanks written.toList) with
        | offsetTooLarge => exact .inl ⟨rfl, rfl⟩
        | instant instant => exact .inr ⟨by simp, _, rfl⟩
        | unreadable => exact .inr ⟨by simp, _, rfl⟩
  | _ => exact .inr ⟨id, _, rfl⟩

theorem compareMoments_failsExactly (relation : Int → Int → Bool) (value : Value)
    (present : Instant) (operand : Value) :
    FailsExactly (compareMoments relation value present operand)
      (.crash .offsetTooLarge) (value.OffsetTooLarge ∨ operand.OffsetTooLarge) := by
  unfold compareMoments
  rcases moment_failing_or_answering present value with
    ⟨tooLarge, failed⟩ | ⟨readable, left, leftRead⟩
  · rw [failed]
    exact .of_error rfl (.inl tooLarge)
  · rw [leftRead]
    rcases moment_failing_or_answering present operand with
      ⟨tooLarge, failed⟩ | ⟨otherReadable, right, rightRead⟩
    · rw [failed]
      exact .of_error rfl (.inr tooLarge)
    · rw [rightRead]
      have neither : ¬(value.OffsetTooLarge ∨ operand.OffsetTooLarge) :=
        not_or.mpr ⟨readable, otherReadable⟩
      cases left <;> cases right <;> exact .of_ok rfl neither

end Moment

end Value

namespace Condition

variable {setting : Setting}

theorem flag_failsExactly (operand : Value) :
    FailsExactly (flag operand) (.flagExpected operand.kind)
      (¬∃ expected, operand = .boolean expected) := by
  cases operand with
  | boolean expected => exact .of_ok rfl (not_not_intro ⟨expected, rfl⟩)
  | _ => exact .of_error rfl nofun

theorem hasKind_failsExactly (value operand : Value) :
    FailsExactly (hasKind value operand) (.kindExpected operand)
      (¬∃ kind ∈ Kind.askable, operand = .text kind.name) := by
  unfold hasKind
  split
  · next name =>
      by_cases askable : (Kind.askable.map Kind.name).contains name = true
      · rw [if_pos askable]
        obtain ⟨kind, member, named⟩ : ∃ kind ∈ Kind.askable, kind.name = name := by
          simpa using askable
        exact .of_ok rfl (not_not_intro ⟨kind, member, by rw [named]⟩)
      · rw [if_neg askable]
        refine .of_error rfl ?_
        rintro ⟨kind, member, named⟩
        cases named
        exact askable (by simpa using ⟨kind, member, rfl⟩)
  · next noText =>
      refine .of_error rfl ?_
      rintro ⟨kind, -, named⟩
      exact noText kind.name named

/-- A pattern is compiled, whatever the value is, and then searched for. -/
theorem exists_search (value : Value) (pattern : String) :
    ∃ search : Pattern.Compiled → Bool,
      (matchesPattern value (.text pattern)).outcome setting =
        search <$> Evaluation.compiledPattern setting pattern := by
  have searched (search : Pattern.Compiled → Bool) :
      (do return search (← Evaluation.getPattern pattern) : Evaluation Bool).outcome
        setting = search <$> Evaluation.compiledPattern setting pattern := by
    rw [← map_eq_pure_bind, Evaluation.outcome_map _ (Evaluation.steady_getPattern pattern),
      Evaluation.outcome_getPattern]
  cases value with
  | text text => exact ⟨fun compiled => compiled.occursIn text, searched _⟩
  | _ => exact ⟨fun _ => false, searched _⟩

/-- The pattern is refused for this reason. -/
def isRejected (names : CharacterNames) (rejection : Pattern.Rejection) (pattern : String) :
    Bool :=
  match Pattern.compile names pattern with
  | .ok _ => false
  | .error other => other = rejection

theorem compile_of_isRejected {names : CharacterNames} {rejection : Pattern.Rejection}
    {pattern : String} (rejected : isRejected names rejection pattern = true) :
    Pattern.compile names pattern = .error rejection := by
  unfold isRejected at rejected
  split at rejected
  · cases rejected
  · rw [← of_decide_eq_true rejected]
    assumption

example : isRejected .standard .repeatCountTooLarge "\\N{DIGIT ONE}{4294967295}" = true := by
  decide +kernel

example : isRejected .standard .incompatibleModes "(?a)(?u)\\N{DIGIT ONE}" = true := by
  decide +kernel

theorem outcome_matchesPattern_cases (value operand : Value) :
    let result := (matchesPattern value operand).outcome setting
    ((¬∃ pattern, operand = .text pattern) →
      result = .error (.patternExpected operand.kind)) ∧
    ∀ pattern, operand = .text pattern →
      (∀ rejection, Pattern.compile setting.names pattern = .error rejection →
        result = .error (.ofRejection pattern rejection)) ∧
      ∀ compiled, Pattern.compile setting.names pattern = .ok compiled →
        ∃ answer, result = .ok answer := by
  intro result
  constructor
  · intro noText
    cases operand with
    | text pattern => exact absurd ⟨pattern, rfl⟩ noText
    | _ => rfl
  · rintro pattern rfl
    obtain ⟨search, searched⟩ := @exists_search setting value pattern
    have compiledFirst : result = _ := searched
    rw [compiledFirst, Evaluation.compiledPattern]
    refine ⟨fun rejection rejected => ?_, fun compiled compilation => ?_⟩
    · rw [rejected]
      rfl
    · rw [compilation]
      exact ⟨_, rfl⟩

section Families

variable {operator : Operator}

theorem order_failsExactly
    (member : operator ∈ [.greater, .greaterOrEqual, .less, .lessOrEqual])
    (value operand : Value) :
    FailsExactly ((applyPlain operator value operand).outcome setting)
      (.incomparable operator value.kind operand.kind) (¬value.Comparable operand) := by
  simp only [List.mem_cons, List.not_mem_nil, or_false] at member
  rcases member with rfl | rfl | rfl | rfl <;>
    rw [applyPlain, Evaluation.outcome_ofExcept] <;>
    exact Value.compareBy_failsExactly _ _ value operand

theorem membership_failsExactly
    (member : operator ∈ [.isIn, .isNotIn, .containsAll]) (value operand : Value) :
    FailsExactly ((applyPlain operator value operand).outcome setting)
      (.listExpected operator operand.kind) (¬operand.IsCollection) := by
  simp only [List.mem_cons, List.not_mem_nil, or_false] at member
  rcases member with rfl | rfl | rfl
  · exact Value.isIn_failsExactly value operand
  · exact Value.isNotIn_failsExactly value operand
  · exact Value.containsAll_failsExactly value operand

theorem date_failsExactly (member : operator ∈ [.dateBefore, .dateAfter])
    (value operand : Value) :
    FailsExactly ((applyPlain operator value operand).outcome setting)
      (.crash .offsetTooLarge) (value.OffsetTooLarge ∨ operand.OffsetTooLarge) := by
  simp only [List.mem_cons, List.not_mem_nil, or_false] at member
  rcases member with rfl | rfl
  · exact Value.compareMoments_failsExactly (fun left right => decide (left < right))
      value setting.present operand
  · exact Value.compareMoments_failsExactly (fun left right => decide (right < left))
      value setting.present operand

end Families

end Condition

end Criteria
