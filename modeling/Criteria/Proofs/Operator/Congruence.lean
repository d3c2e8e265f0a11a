import Criteria.Operator.Collection
import Criteria.Operator.Comparison
import Criteria.Operator.Moment
import Criteria.Operator.Text
import Criteria.Proofs.Value.Equality

/-!
# Operators on equal values

No operator tells equal values apart: comparisons see the places of numbers,
memberships see equality, sizes see the number of items, moments are compared
as instants, and texts are only equal if they are the same.
-/

namespace Criteria

namespace Value

variable {left right : Value}

/-- Equal values are both collections, with equal items, or both are none. -/
theorem items?_of_equal (equal : left.equal right = true) :
    (left.items? = none ∧ right.items? = none) ∨
      ∃ items others, left.items? = some items ∧ right.items? = some others ∧
        List.Forall₂ (fun item other => item.equal other = true) items others := by
  cases equal_iff_alike.mp equal with
  | collection held otherHeld each => exact .inr ⟨_, _, held, otherHeld, each⟩
  | _ => exact .inl ⟨rfl, rfl⟩

/-- Equal values are the same text, or both are none. -/
theorem eq_or_no_text (equal : left.equal right = true) :
    left = right ∨ (∀ text, left ≠ .text text) ∧ (∀ text, right ≠ .text text) := by
  cases equal_iff_alike.mp equal with
  | text value => exact .inl rfl
  | collection held otherHeld each =>
      refine .inr ⟨?_, ?_⟩ <;> rintro text rfl
      · cases held
      · cases otherHeld
  | _ => exact .inr ⟨nofun, nofun⟩

section Comparison

theorem orderable_eq_false {value other : Value}
    (noNumber : ∀ number, value ≠ .number number)
    (noText : ∀ text, value ≠ .text text) :
    value.orderable other = false ∧ other.orderable value = false := by
  cases value with
  | number number => exact absurd rfl (noNumber number)
  | text text => exact absurd rfl (noText text)
  | _ => cases other <;> exact ⟨rfl, rfl⟩

theorem eq_or_numbers_or_unordered (equal : left.equal right = true) :
    left = right ∨
      (∃ number other, left = .number number ∧ right = .number other ∧
        number.equal other = true) ∨
      (∀ operand, left.orderable operand = false ∧ operand.orderable left = false) ∧
        (∀ operand, right.orderable operand = false ∧
          operand.orderable right = false) := by
  cases equal_iff_alike.mp equal with
  | number same => exact .inr (.inl ⟨_, _, rfl, rfl, same⟩)
  | collection held otherHeld each =>
      refine .inr (.inr ⟨fun operand => ?_, fun operand => ?_⟩) <;>
        apply orderable_eq_false <;> rintro _ rfl
      · cases held
      · cases held
      · cases otherHeld
      · cases otherHeld
  | dateTime same =>
      exact .inr (.inr ⟨fun operand => orderable_eq_false nofun nofun,
        fun operand => orderable_eq_false nofun nofun⟩)
  | mapping sameLength found =>
      exact .inr (.inr ⟨fun operand => orderable_eq_false nofun nofun,
        fun operand => orderable_eq_false nofun nofun⟩)
  | _ => exact .inl rfl

theorem orderable_congr (equal : left.equal right = true) (operand : Value) :
    left.orderable operand = right.orderable operand := by
  rcases eq_or_numbers_or_unordered equal with
    rfl | ⟨number, other, rfl, rfl, -⟩ | ⟨leftNever, rightNever⟩
  · rfl
  · cases operand <;> rfl
  · rw [(leftNever operand).1, (rightNever operand).1]

/-- A relation that sees numbers by their places and holds between values with
an order only, on either side of another value. -/
theorem ordered_congr {relation : Value → Value → Bool}
    {places : Place → Place → Bool}
    (numbers : ∀ number other,
      relation (.number number) (.number other) = Number.related places number other)
    (ordered : ∀ value other, value.orderable other = false →
      relation value other = false)
    (equal : left.equal right = true) (operand : Value) :
    relation left operand = relation right operand ∧
      relation operand left = relation operand right := by
  rcases eq_or_numbers_or_unordered equal with
    rfl | ⟨number, other, rfl, rfl, same⟩ | ⟨leftNever, rightNever⟩
  · exact ⟨rfl, rfl⟩
  · cases operand with
    | number third =>
        simp only [numbers]
        exact ⟨Number.related_congr_left same places third,
          Number.related_congr_right same places third⟩
    | _ =>
        constructor <;> rw [ordered _ _ rfl, ordered _ _ rfl]
  · constructor
    · rw [ordered _ _ (leftNever operand).1, ordered _ _ (rightNever operand).1]
    · rw [ordered _ _ (leftNever operand).2, ordered _ _ (rightNever operand).2]

theorem less_congr (equal : left.equal right = true) (operand : Value) :
    left.less operand = right.less operand ∧
      operand.less left = operand.less right := by
  apply ordered_congr (fun number other => rfl) _ equal
  intro value other never
  cases value <;> cases other <;> first | rfl | cases never

theorem lessOrEqual_congr (equal : left.equal right = true) (operand : Value) :
    left.lessOrEqual operand = right.lessOrEqual operand ∧
      operand.lessOrEqual left = operand.lessOrEqual right := by
  apply ordered_congr (fun number other => rfl) _ equal
  intro value other never
  cases value <;> cases other <;> first | rfl | cases never

theorem compareBy_congr (equal : left.equal right = true) (operator : Operator)
    {relation : Value → Value → Bool} {operand : Value}
    (related : relation left operand = relation right operand) :
    compareBy operator relation left operand =
      compareBy operator relation right operand := by
  rw [compareBy, compareBy, orderable_congr equal, related, kind_eq_of_equal equal]

theorem isBetween_congr (equal : left.equal right = true) (operand : Value) :
    left.isBetween operand = right.isBetween operand := by
  unfold isBetween
  split
  · rw [orderable_congr equal, orderable_congr equal,
      (lessOrEqual_congr equal _).1, (lessOrEqual_congr equal _).2]
  · rfl

end Comparison

section Text

/-- A test of texts that nothing but texts pass. -/
theorem textual_congr {test : Value → Value → Bool}
    (textual : ∀ value operand, (∀ text, value ≠ .text text) →
      test value operand = false)
    (equal : left.equal right = true) (operand : Value) :
    test left operand = test right operand := by
  rcases eq_or_no_text equal with rfl | ⟨noText, otherNoText⟩
  · rfl
  · rw [textual left operand noText, textual right operand otherNoText]

theorem startsWith_congr (equal : left.equal right = true) (operand : Value) :
    left.startsWith operand = right.startsWith operand := by
  apply textual_congr _ equal
  intro value operand noText
  cases value with
  | text text => exact absurd rfl (noText text)
  | _ => rfl

theorem endsWith_congr (equal : left.equal right = true) (operand : Value) :
    left.endsWith operand = right.endsWith operand := by
  apply textual_congr _ equal
  intro value operand noText
  cases value with
  | text text => exact absurd rfl (noText text)
  | _ => rfl

end Text

section Collection

theorem memberOf_congr (wellFormed : left.WellFormed)
    (equal : left.equal right = true) (options : List Value) :
    left.memberOf options = right.memberOf options := by
  simp only [memberOf, equal_congr_left wellFormed equal]

theorem any_congr {related : α → α → Prop} {items others : List α}
    {test : α → Bool} (each : List.Forall₂ related items others)
    (agree : ∀ item ∈ items, ∀ other, related item other → test item = test other) :
    items.any test = others.any test := by
  induction each with
  | nil => rfl
  | cons head tail induction =>
      rw [List.any_cons, List.any_cons, agree _ List.mem_cons_self _ head,
        induction fun item later => agree item (List.mem_cons_of_mem _ later)]

theorem isIn_congr (wellFormed : left.WellFormed)
    (equal : left.equal right = true) (operand : Value) :
    left.isIn operand = right.isIn operand := by
  unfold isIn
  simp only [memberOf_congr wellFormed equal]

theorem isNotIn_congr (wellFormed : left.WellFormed)
    (equal : left.equal right = true) (operand : Value) :
    left.isNotIn operand = right.isNotIn operand := by
  unfold isNotIn
  simp only [memberOf_congr wellFormed equal]

theorem containsAll_congr (wellFormed : left.WellFormed)
    (equal : left.equal right = true) (operand : Value) :
    left.containsAll operand = right.containsAll operand := by
  unfold containsAll
  rcases items?_of_equal equal with
    ⟨none, otherNone⟩ | ⟨items, others, held, otherHeld, each⟩
  · rw [none, otherNone]
  · have sameMembers (required : Value) :
        required.memberOf items = required.memberOf others :=
      any_congr each fun item member other itemEqual =>
        equal_congr_right (wellFormed_of_mem_items wellFormed held member)
          itemEqual required
    simp only [held, otherHeld, sameMembers]

theorem hasSize_congr (equal : left.equal right = true) (operand : Value) :
    left.hasSize operand = right.hasSize operand := by
  unfold hasSize
  rcases items?_of_equal equal with
    ⟨none, otherNone⟩ | ⟨items, others, held, otherHeld, each⟩
  · rw [none, otherNone]
  · rw [held, otherHeld]
    simp only [each.length_eq]

theorem containsPart_congr (wellFormed : left.WellFormed)
    (equal : left.equal right = true) (operand : Value) :
    left.containsPart operand = right.containsPart operand := by
  unfold containsPart
  rcases items?_of_equal equal with
    ⟨none, otherNone⟩ | ⟨items, others, held, otherHeld, each⟩
  · rw [none, otherNone]
    rcases eq_or_no_text equal with rfl | ⟨noText, otherNoText⟩
    · rfl
    · dsimp only
      split
      · exact absurd rfl (noText _)
      · split
        · exact absurd rfl (otherNoText _)
        · rfl
  · rw [held, otherHeld]
    exact any_congr each fun item member other itemEqual =>
      equal_congr_left (wellFormed_of_mem_items wellFormed held member)
        itemEqual operand

end Collection

section Moment

variable {present : Instant}

/-- The microseconds of the moment of a value. -/
def momentMicroseconds (present : Instant) (value : Value) : Except Fault (Option Int) :=
  Option.map Instant.microseconds <$> value.moment present

theorem momentMicroseconds_congr (equal : left.equal right = true) :
    left.momentMicroseconds present = right.momentMicroseconds present := by
  cases equal_iff_alike.mp equal with
  | number same =>
      simp only [momentMicroseconds, moment, Instant.ofEpochMilliseconds?_congr same]
  | dateTime same =>
      have read (clock : DateTime) :
          (Value.dateTime clock).momentMicroseconds present =
            .ok (some clock.instant.microseconds) := rfl
      rw [read, read, (DateTime.same_iff.mp same).2]
  | collection held otherHeld each =>
      have noMoment {value : Value} {items : List Value}
          (held : value.items? = some items) : value.moment present = .ok none := by
        cases value <;> first | rfl | cases held
      rw [momentMicroseconds, momentMicroseconds, noMoment held, noMoment otherHeld]
  | _ => rfl

theorem compareMoments_eq (relation : Int → Int → Bool) (value operand : Value) :
    compareMoments relation value present operand = (do
      let left ← value.momentMicroseconds present
      let right ← operand.momentMicroseconds present
      match left, right with
      | some left, some right => return relation left right
      | _, _ => return false) := by
  unfold compareMoments momentMicroseconds
  rcases value.moment present with _ | (_ | _) <;>
    rcases operand.moment present with _ | (_ | _) <;> rfl

theorem compareMoments_congr (equal : left.equal right = true)
    (relation : Int → Int → Bool) (operand : Value) :
    compareMoments relation left present operand =
      compareMoments relation right present operand := by
  rw [compareMoments_eq, compareMoments_eq, momentMicroseconds_congr equal]

end Moment

end Value

end Criteria
