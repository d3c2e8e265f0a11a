import Mathlib.Data.String.Basic
import Criteria.Proofs.Condition.Application
import Criteria.Proofs.Number.Order

/-!
# Ordering operators

The four comparisons refuse the same pairs of values and read one total order on the
others: of numbers by their exact values, of texts by code point.  A range asks two of
these comparisons and refuses nothing.
-/

namespace Criteria

namespace Value

variable {left middle right : Value}

section Order

/-- The undefined number, which stands in no order. -/
def IsUndefined (value : Value) : Prop :=
  value = .number (.binary .nan)

theorem comparable_comm : left.Comparable right ↔ right.Comparable left := by
  unfold Comparable
  constructor
  all_goals
    rintro (⟨number, other, rfl, rfl⟩ | ⟨text, other, rfl, rfl⟩)
    · exact .inl ⟨other, number, rfl, rfl⟩
    · exact .inr ⟨other, text, rfl, rfl⟩

theorem comparable_of_less (below : left.less right = true) : left.Comparable right := by
  cases left with
  | number number =>
      cases right with
      | number other => exact .inl ⟨number, other, rfl, rfl⟩
      | _ => cases below
  | text text =>
      cases right with
      | text other => exact .inr ⟨text, other, rfl, rfl⟩
      | _ => cases below
  | _ => cases below

theorem less_trans (first : left.less middle = true) (second : middle.less right = true) :
    left.less right = true := by
  rcases comparable_of_less first with ⟨number, other, rfl, rfl⟩ | ⟨text, other, rfl, rfl⟩
  · cases right with
    | number last => exact Number.less_trans first second
    | _ => cases second
  · cases right with
    | text last =>
        have below : text < other := of_decide_eq_true first
        have above : other < last := of_decide_eq_true second
        exact decide_eq_true (below.trans above)
    | _ => cases second

/-- Three tests that read a linear order: exactly one of them holds. -/
theorem count_of_linearOrder {α : Type} [LinearOrder α] {value other : α}
    {below same above : Bool} (belowIff : below = true ↔ value < other)
    (sameIff : same = true ↔ value = other) (aboveIff : above = true ↔ other < value) :
    [below, same, above].count true = 1 := by
  rcases lt_trichotomy value other with less | equal | greater
  · have notSame : ¬same = true := mt sameIff.mp less.ne
    have notAbove : ¬above = true := mt aboveIff.mp less.asymm
    simp [belowIff.mpr less, notSame, notAbove]
  · have notBelow : ¬below = true := mt belowIff.mp equal.not_lt
    have notAbove : ¬above = true := mt aboveIff.mp equal.not_gt
    simp [sameIff.mpr equal, notBelow, notAbove]
  · have notBelow : ¬below = true := mt belowIff.mp greater.asymm
    have notSame : ¬same = true := mt sameIff.mp greater.ne'
    simp [aboveIff.mpr greater, notBelow, notSame]

theorem less_trichotomy (comparable : left.Comparable right)
    (leftDefined : ¬left.IsUndefined) (rightDefined : ¬right.IsUndefined) :
    [left.less right, left.equal right, right.less left].count true = 1 := by
  rcases comparable with ⟨number, other, rfl, rfl⟩ | ⟨text, other, rfl, rfl⟩
  · obtain ⟨value, numberValue⟩ := Number.exists_exactValue?
      (fun undefined => leftDefined (congrArg Value.number undefined))
    obtain ⟨last, otherValue⟩ := Number.exists_exactValue?
      (fun undefined => rightDefined (congrArg Value.number undefined))
    exact count_of_linearOrder (Number.less_iff_of_exact numberValue otherValue)
      (Number.equal_iff_of_exact numberValue otherValue)
      (Number.less_iff_of_exact otherValue numberValue)
  · exact count_of_linearOrder decide_eq_true_iff beq_iff_eq decide_eq_true_iff

theorem lessOrEqual_eq_not_less (comparable : left.Comparable right)
    (leftDefined : ¬left.IsUndefined) (rightDefined : ¬right.IsUndefined) :
    left.lessOrEqual right = !right.less left := by
  rcases comparable with ⟨number, other, rfl, rfl⟩ | ⟨text, other, rfl, rfl⟩
  · exact Number.lessOrEqual_eq_not_less
      (fun undefined => leftDefined (congrArg Value.number undefined))
      (fun undefined => rightDefined (congrArg Value.number undefined))
  · rfl

end Order

section Comparison

variable {operator : Operator} {relation : Value → Value → Bool}

theorem compareBy_of_comparable (comparable : left.Comparable right) :
    compareBy operator relation left right = .ok (relation left right) :=
  if_pos (orderable_iff.mpr comparable)

theorem compareBy_eq_true_iff :
    compareBy operator relation left right = .ok true ↔
      left.orderable right = true ∧ relation left right = true := by
  rw [compareBy]
  cases left.orderable right <;> simp

/-- A value is in a range if it is at least the one and at most the other bound. -/
theorem isBetween_iff {value operand : Value} :
    value.isBetween operand = true ↔
      ∃ low high, operand.items? = some [low, high] ∧
        compareBy .greaterOrEqual (fun left right => right.lessOrEqual left) value low =
          .ok true ∧
        compareBy .lessOrEqual lessOrEqual value high = .ok true := by
  simp only [compareBy_eq_true_iff]
  unfold isBetween
  split
  · next low high held =>
      simp only [held, Option.some.injEq, List.cons.injEq, and_true, Bool.and_eq_true]
      constructor
      · rintro ⟨⟨⟨lowOrdered, highOrdered⟩, atLeast⟩, atMost⟩
        exact ⟨low, high, ⟨rfl, rfl⟩, ⟨lowOrdered, atLeast⟩, highOrdered, atMost⟩
      · rintro ⟨_, _, ⟨rfl, rfl⟩, ⟨lowOrdered, atLeast⟩, highOrdered, atMost⟩
        exact ⟨⟨⟨lowOrdered, highOrdered⟩, atLeast⟩, atMost⟩
  · next noBounds =>
      refine iff_of_false Bool.false_ne_true ?_
      rintro ⟨low, high, held, -⟩
      exact noBounds low high held

end Comparison

end Value

namespace Condition

section Rules

variable {names : CharacterNames} {present : Instant} {engine : Engine}

/-- The relation that an ordering operator decides. -/
def ordering? : Operator → Option (Value → Value → Bool)
  | .greater => some fun left right => right.less left
  | .greaterOrEqual => some fun left right => right.lessOrEqual left
  | .less => some Value.less
  | .lessOrEqual => some Value.lessOrEqual
  | _ => none

theorem applied_of_ordering (serving : engine.Serves (.known names present))
    {operator : Operator} {relation : Value → Value → Bool}
    (orders : ordering? operator = some relation) (left right : Value) :
    applied engine operator left right = Value.compareBy operator relation left right := by
  cases operator <;> cases orders <;>
    exact applied_plain serving (by decide) (by decide) left right

/-- The ordering operators refuse the same pairs of values. -/
theorem ordering_refuses_iff (serving : engine.Serves (.known names present))
    {operator : Operator} (member : operator ∈ [.greater, .greaterOrEqual, .less, .lessOrEqual])
    {left right : Value} :
    (∃ fault, applied engine operator left right = .error fault) ↔ ¬left.Comparable right := by
  have plain : ∀ operator ∈ [Operator.greater, .greaterOrEqual, .less, .lessOrEqual],
      operator.family ≠ .structural ∧ operator.family ≠ .logical := by decide
  obtain ⟨notStructural, notLogical⟩ := plain operator member
  simp only [applied_plain serving notStructural notLogical]
  exact (order_failsExactly member left right).fails_iff

theorem applied_less_iff (serving : engine.Serves (.known names present)) {left right : Value} :
    applied engine .less left right = .ok true ↔ left.less right = true := by
  rw [applied_of_ordering serving rfl, Value.compareBy_eq_true_iff, Value.orderable_iff]
  exact and_iff_right_of_imp Value.comparable_of_less

theorem applied_trichotomy (serving : engine.Serves (.known names present)) {left right : Value}
    (comparable : left.Comparable right) (leftDefined : ¬left.IsUndefined)
    (rightDefined : ¬right.IsUndefined) :
    ∃ below same above,
      applied engine .less left right = .ok below ∧
      applied engine .equal left right = .ok same ∧
      applied engine .greater left right = .ok above ∧
      [below, same, above].count true = 1 ∧
      applied engine .greaterOrEqual left right = .ok (!below) ∧
      applied engine .lessOrEqual left right = .ok (!above) := by
  have answered {operator : Operator} {relation : Value → Value → Bool}
      (orders : ordering? operator = some relation) :
      applied engine operator left right = .ok (relation left right) :=
    (applied_of_ordering serving orders left right).trans
      (Value.compareBy_of_comparable comparable)
  refine ⟨left.less right, left.equal right, right.less left, answered rfl,
    applied_plain serving (by decide) (by decide) left right, by rw [answered rfl],
    Value.less_trichotomy comparable leftDefined rightDefined, ?_, ?_⟩
  · rw [answered rfl,
      Value.lessOrEqual_eq_not_less (Value.comparable_comm.mp comparable) rightDefined leftDefined]
  · rw [answered rfl, Value.lessOrEqual_eq_not_less comparable leftDefined rightDefined]

/-- A range is made of a comparison with its lower and one with its upper bound. -/
theorem applied_between (serving : engine.Serves (.known names present))
    (value operand : Value) :
    ∃ inside, applied engine .between value operand = .ok inside ∧
      (inside = true ↔ ∃ low high, operand.items? = some [low, high] ∧
        applied engine .greaterOrEqual value low = .ok true ∧
        applied engine .lessOrEqual value high = .ok true) := by
  have atLeast (low : Value) : applied engine .greaterOrEqual value low =
      Value.compareBy .greaterOrEqual (fun left right => right.lessOrEqual left) value low :=
    applied_of_ordering serving rfl value low
  have atMost (high : Value) : applied engine .lessOrEqual value high =
      Value.compareBy .lessOrEqual Value.lessOrEqual value high :=
    applied_of_ordering serving rfl value high
  refine ⟨value.isBetween operand, applied_plain serving (by decide) (by decide) _ _, ?_⟩
  simp only [atLeast, atMost]
  exact Value.isBetween_iff

end Rules

/-- The ordering operators read one total order that agrees with equality.  They refuse
the same pairs of values, whichever side the values are on.  Of two defined values that
they do not refuse exactly one is less than, equal to or greater than the other, and
what is not less is at least, and what is not greater is at most the other.  Numbers of
either format are ordered by their exact values, texts by code point.  A range refuses
nothing and is made of two comparisons with its bounds. -/
theorem applied_total_order {names : CharacterNames} {present : Instant} {engine : Engine}
    (serving : engine.Serves (.known names present)) :
    let orderings := [Operator.greater, .greaterOrEqual, .less, .lessOrEqual]
    let refuses (operator : Operator) (left right : Value) :=
      ∃ fault, applied engine operator left right = .error fault
    (∀ operator ∈ orderings, ∀ other ∈ orderings, ∀ left right,
      (refuses operator left right ↔ refuses other left right) ∧
        (refuses operator left right ↔ refuses operator right left)) ∧
    (∀ left right, ¬refuses .less left right → ¬left.IsUndefined → ¬right.IsUndefined →
      ∃ below same above,
        applied engine .less left right = .ok below ∧
        applied engine .equal left right = .ok same ∧
        applied engine .greater left right = .ok above ∧
        [below, same, above].count true = 1 ∧
        applied engine .greaterOrEqual left right = .ok (!below) ∧
        applied engine .lessOrEqual left right = .ok (!above)) ∧
    (∀ left middle right, applied engine .less left middle = .ok true →
      applied engine .less middle right = .ok true →
      applied engine .less left right = .ok true) ∧
    (∀ left right : Number,
      applied engine .less (.number left) (.number right) = .ok true ↔
        ∃ value other, left.exactValue? = some value ∧ right.exactValue? = some other ∧
          value < other) ∧
    (∀ left right : String,
      applied engine .less (.text left) (.text right) = .ok true ↔
        List.Lex (fun char other : Char => char.val < other.val)
          left.toList right.toList) ∧
    (∀ value operand, ∃ inside,
      applied engine .between value operand = .ok inside ∧
      (inside = true ↔ ∃ low high, operand.items? = some [low, high] ∧
        applied engine .greaterOrEqual value low = .ok true ∧
        applied engine .lessOrEqual value high = .ok true)) := by
  intro orderings refuses
  refine ⟨?_, ?_, ?_, ?_, ?_, applied_between serving⟩
  · intro operator member other otherMember left right
    have refuses_iff {operator : Operator} (member : operator ∈ orderings)
        (left right : Value) : refuses operator left right ↔ ¬left.Comparable right :=
      ordering_refuses_iff serving member
    rw [refuses_iff member, refuses_iff otherMember, refuses_iff member]
    exact ⟨Iff.rfl, not_congr Value.comparable_comm⟩
  · intro left right accepted leftDefined rightDefined
    have comparable : left.Comparable right :=
      not_not.mp (mt (ordering_refuses_iff serving (by decide)).mpr accepted)
    exact applied_trichotomy serving comparable leftDefined rightDefined
  · intro left middle right first second
    rw [applied_less_iff serving] at first second ⊢
    exact Value.less_trans first second
  · intro left right
    rw [applied_less_iff serving]
    exact Number.less_iff_exact
  · intro left right
    rw [applied_less_iff serving]
    exact decide_eq_true_iff

theorem applied_total_order_of_mixed_formats :
    let engine := (Setting.known .standard default).engine
    let rounded := Value.number (.binary (.finite false (2 ^ 53 * Binary64.stepsPerUnit)))
    let exact := Value.integer (2 ^ 53 + 1)
    let infinite := Value.number (.binary (.infinite false))
    engine.Serves (.known .standard default) ∧
      applied engine .less rounded exact = .ok true ∧
      applied engine .less exact infinite = .ok true ∧
      applied engine .less rounded infinite = .ok true ∧
      (∃ fault, applied engine .greater (.text "a") exact = .error fault) ∧
      ∃ fault, applied engine .lessOrEqual exact (.text "a") = .error fault := by
  intro engine rounded exact infinite
  have serving : engine.Serves (.known .standard default) := Engine.serves_engine _
  obtain ⟨refusals, -, transitive, -, -, -⟩ := applied_total_order serving
  have first : applied engine .less rounded exact = .ok true :=
    (applied_less_iff serving).mpr (by decide +kernel)
  have second : applied engine .less exact infinite = .ok true :=
    (applied_less_iff serving).mpr (by decide +kernel)
  have refused : ∃ fault, applied engine .greater (.text "a") exact = .error fault :=
    ⟨_, applied_of_ordering serving rfl (.text "a") exact⟩
  obtain ⟨others, -⟩ := refusals .greater (by decide) .lessOrEqual (by decide) (.text "a") exact
  obtain ⟨-, sides⟩ := refusals .lessOrEqual (by decide) .less (by decide) (.text "a") exact
  exact ⟨serving, first, second, transitive _ _ _ first second, refused,
    sides.mp (others.mp refused)⟩

end Condition

end Criteria
