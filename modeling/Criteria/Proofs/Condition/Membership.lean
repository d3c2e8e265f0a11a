import Criteria.Proofs.Condition.Application
import Criteria.Proofs.Condition.Composition
import Criteria.Proofs.Value.Equivalence

/-!
# Membership operators

Five ways to ask whether a collection has an item that equals a value go through the
collection from different sides and in different order, yet agree, since equality is
symmetric.  Containment of one collection in another is made of such questions, so that
only the items count, not their order or number.
-/

namespace Criteria

namespace Value

section Collections

variable {value collection required : Value} {items : List Value}

theorem memberOf_eq_any (wellFormed : value.WellFormed)
    (itemsWellFormed : ∀ item ∈ items, item.WellFormed) :
    value.memberOf items = items.any fun item => item.equal value := by
  rw [memberOf, Bool.eq_iff_iff, List.any_eq_true, List.any_eq_true]
  constructor
  · rintro ⟨item, member, equal⟩
    exact ⟨item, member, equal_symm wellFormed equal⟩
  · rintro ⟨item, member, equal⟩
    exact ⟨item, member, equal_symm (itemsWellFormed item member) equal⟩

theorem memberOf_congr_items {others : List Value}
    (same : ∀ item, item ∈ items ↔ item ∈ others) (value : Value) :
    value.memberOf items = value.memberOf others := by
  rw [memberOf, memberOf, Bool.eq_iff_iff]
  simp only [List.any_eq_true, same]

theorem containsPart_of_items (held : collection.items? = some items) (value : Value) :
    collection.containsPart value = items.any fun item => item.equal value := by
  cases collection with
  | list others | tuple others =>
      cases held
      rfl
  | _ => cases held

/-- A collection contains another if each item of that is a member of this. -/
theorem containsAll_of_items {needed : List Value} (held : collection.items? = some items)
    (requiredHeld : required.items? = some needed) :
    collection.containsAll required = .ok (needed.all fun item => item.memberOf items) := by
  rw [containsAll, requireItems, requiredHeld]
  simp only [held]
  rfl

theorem containsAll_eq_true_iff :
    collection.containsAll required = .ok true ↔
      ∃ items needed, collection.items? = some items ∧ required.items? = some needed ∧
        ∀ item ∈ needed, ∃ other ∈ items, item.equal other = true := by
  rw [containsAll, requireItems]
  cases required.items? with
  | none => simp [bind, Except.bind]
  | some needed =>
      cases collection.items? with
      | none => simp [bind, Except.bind, pure, Except.pure]
      | some items => simp [bind, Except.bind, pure, Except.pure, memberOf]

theorem containsAll_refl (wellFormed : collection.WellFormed) (nanFree : collection.NaNFree)
    (held : collection.items? = some items) : collection.containsAll collection = .ok true := by
  refine containsAll_eq_true_iff.mpr ⟨items, items, held, held, ?_⟩
  intro item member
  exact ⟨item, member, equal_refl (wellFormed_of_mem_items wellFormed held member)
    (nanFree.items held item member)⟩

theorem containsAll_trans {middle : Value} (first : collection.containsAll middle = .ok true)
    (second : middle.containsAll required = .ok true) :
    collection.containsAll required = .ok true := by
  obtain ⟨items, between, held, middleHeld, allBetween⟩ := containsAll_eq_true_iff.mp first
  obtain ⟨others, needed, othersHeld, requiredHeld, allNeeded⟩ :=
    containsAll_eq_true_iff.mp second
  obtain rfl : between = others := Option.some.inj (middleHeld.symm.trans othersHeld)
  refine containsAll_eq_true_iff.mpr ⟨items, needed, held, requiredHeld, ?_⟩
  intro item member
  obtain ⟨other, otherMember, equal⟩ := allNeeded item member
  obtain ⟨last, lastMember, otherEqual⟩ := allBetween other otherMember
  exact ⟨last, lastMember, equal_trans equal otherEqual⟩

/-- Two collections hold the same items, in whatever order and number. -/
def SameItems (left right : Value) : Prop :=
  ∃ items others, left.items? = some items ∧ right.items? = some others ∧
    ∀ item, item ∈ items ↔ item ∈ others

theorem containsAll_congr_items {other otherRequired : Value}
    (sameItems : collection.SameItems other) (sameRequired : required.SameItems otherRequired) :
    collection.containsAll required = other.containsAll otherRequired := by
  obtain ⟨items, others, held, otherHeld, same⟩ := sameItems
  obtain ⟨needed, otherNeeded, requiredHeld, otherRequiredHeld, needs⟩ := sameRequired
  rw [containsAll_of_items held requiredHeld, containsAll_of_items otherHeld otherRequiredHeld]
  rw [Except.ok.injEq, Bool.eq_iff_iff]
  simp only [List.all_eq_true, memberOf_congr_items same, needs]

end Collections

end Value

namespace Condition

section Questions

variable {names : CharacterNames} {present : Instant} {engine : Engine}
variable {value options : Value} {items : List Value}

theorem outcome_ofEqual (value operand : Value) :
    (matchValue value (ofOperator .equal operand)).outcome (.known names present) =
      .ok (value.equal operand) :=
  outcome_ofOperator .equal operand

theorem outcome_disjunction_ofEqual (value : Value) (items : List Value) :
    (matchValue value (ofOperator .disjunction (.list (items.map (ofOperator .equal))))).outcome
      (.known names present) = .ok (value.memberOf items) := by
  rw [joins_disjunction names present value rfl, List.mapM_map]
  simp only [Function.comp_def, outcome_ofEqual]
  exact (congrArg (anyOf <$> ·) List.mapM_pure).trans
    (congrArg Except.ok (anyOf_map items value.equal))

theorem outcome_element_ofEqual (held : options.items? = some items) (value : Value) :
    (applyHandler options (ofOperator .equal value) (.known .element)).outcome
      (.known names present) =
      .ok (items.any fun item => item.equal value) := by
  have shape : shapeOfEntries [(.text Operator.equal.name, value)] = .operators := rfl
  have asked (item : Value) :
      (applyQuery [(.text Operator.equal.name, value)] item).outcome (.known names present) =
        .ok (item.equal value) := by
    rw [← outcome_ofEqual, ofOperator, outcome_matchValue_mapping, applyQuery, shape]
    exact Evaluation.outcome_map _ (steady_matchClauses item _)
  rw [outcome_element, ofOperator]
  simp only [shape, held, asked]
  exact (congrArg (anyOf <$> ·) List.mapM_pure).trans
    (congrArg Except.ok (anyOf_map items fun item => item.equal value))

theorem applied_equal (serving : engine.Serves (.known names present)) (value operand : Value) :
    applied engine .equal value operand = .ok (value.equal operand) :=
  applied_plain serving (by decide) (by decide) value operand

theorem applied_contains (serving : engine.Serves (.known names present))
    (held : options.items? = some items) (value : Value) :
    applied engine .contains options value = .ok (items.any fun item => item.equal value) := by
  refine (applied_plain serving (by decide) (by decide) options value).trans ?_
  rw [applyPlain, Value.containsPart_of_items held]
  rfl

theorem applied_isIn (serving : engine.Serves (.known names present))
    (held : options.items? = some items) (value : Value) :
    applied engine .isIn value options = .ok (value.memberOf items) := by
  refine (applied_plain serving (by decide) (by decide) value options).trans ?_
  rw [applyPlain, Value.isIn, Value.requireItems, held]
  rfl

theorem applied_isNotIn (serving : engine.Serves (.known names present))
    (held : options.items? = some items) (value : Value) :
    applied engine .isNotIn value options = .ok (!value.memberOf items) := by
  refine (applied_plain serving (by decide) (by decide) value options).trans ?_
  rw [applyPlain, Value.isNotIn, Value.requireItems, held]
  rfl

theorem applied_containsAll (serving : engine.Serves (.known names present))
    (collection required : Value) :
    applied engine .containsAll collection required = collection.containsAll required :=
  applied_plain serving (by decide) (by decide) collection required

end Questions

/-- All questions for membership agree with equality.  A value is in a collection, not
outside of it, contained by it, equal to one of its elements, or equal to one of the
alternatives made of its items, if and only if it equals one of the items.  A collection
has all items of another if and only if it contains each of them, whatever their order
and number on either side; this is transitive, and reflexive where the undefined number
does not occur. -/
theorem applied_membership {names : CharacterNames} {present : Instant} {engine : Engine}
    (serving : engine.Serves (.known names present)) :
    (∀ (value options : Value) (items : List Value), value.WellFormed →
      options.WellFormed → options.items? = some items →
      let alternatives := Value.list (items.map (ofOperator .equal))
      ∃ member,
        applied engine .isIn value options = .ok member ∧
        applied engine .isNotIn value options = .ok (!member) ∧
        applied engine .contains options value = .ok member ∧
        applied engine .element options (ofOperator .equal value) = .ok member ∧
        ((matchValue value (ofOperator .disjunction alternatives)).run.run engine).1 =
          .ok member ∧
        (member = true ↔ ∃ item ∈ items, applied engine .equal value item = .ok true)) ∧
    (∀ (collection required : Value) (needed : List Value), collection.WellFormed →
      required.WellFormed → collection.IsCollection → required.items? = some needed →
      ∃ all, applied engine .containsAll collection required = .ok all ∧
        (all = true ↔ ∀ item ∈ needed, applied engine .contains collection item = .ok true)) ∧
    (∀ collection other required otherRequired : Value, collection.SameItems other →
      required.SameItems otherRequired →
      applied engine .containsAll collection required =
        applied engine .containsAll other otherRequired) ∧
    (∀ collection : Value, collection.WellFormed → collection.NaNFree →
      collection.IsCollection → applied engine .containsAll collection collection = .ok true) ∧
    (∀ first second third : Value, applied engine .containsAll first second = .ok true →
      applied engine .containsAll second third = .ok true →
      applied engine .containsAll first third = .ok true) := by
  simp only [applied_containsAll serving]
  refine ⟨?_, ?_, fun _ _ _ _ => Value.containsAll_congr_items, ?_,
    fun _ _ _ => Value.containsAll_trans⟩
  · intro value options items wellFormed optionsWellFormed held
    have flipped := Value.memberOf_eq_any wellFormed
      fun item member => Value.wellFormed_of_mem_items optionsWellFormed held member
    refine ⟨value.memberOf items, applied_isIn serving held value,
      applied_isNotIn serving held value, ?_, ?_, ?_, ?_⟩
    · rw [applied_contains serving held, flipped]
    · rw [applied_eq serving, outcome_element_ofEqual held, flipped]
    · rw [(steady_matchValue value _).result serving, outcome_disjunction_ofEqual]
    · simp only [Value.memberOf, List.any_eq_true, applied_equal serving, Except.ok.injEq]
  · intro collection required needed wellFormed requiredWellFormed isCollection requiredHeld
    obtain ⟨items, held⟩ := Value.exists_items?_iff.mpr isCollection
    refine ⟨_, Value.containsAll_of_items held requiredHeld, ?_⟩
    rw [List.all_eq_true]
    refine forall₂_congr fun item member => ?_
    rw [applied_contains serving held, Except.ok.injEq,
      Value.memberOf_eq_any (Value.wellFormed_of_mem_items requiredWellFormed requiredHeld member)
        fun other otherMember => Value.wellFormed_of_mem_items wellFormed held otherMember]
  · intro collection wellFormed nanFree isCollection
    obtain ⟨items, held⟩ := Value.exists_items?_iff.mpr isCollection
    exact Value.containsAll_refl wellFormed nanFree held

theorem applied_membership_of_mixed_formats :
    let engine := (Setting.known .standard default).engine
    let one := Value.number (.binary (.finite false Binary64.stepsPerUnit))
    let value := Value.list [one, .mapping [(.text "a", .null)]]
    let options := Value.tuple [.number (.binary .nan),
      .tuple [.integer 1, .mapping [(.text "a", .null)]]]
    value.WellFormed ∧ options.WellFormed ∧ value.NaNFree ∧
      applied engine .isNotIn value options = .ok false ∧
      applied engine .element options (ofOperator .equal value) = .ok true ∧
      applied engine .containsAll options (.list [value, value]) = .ok true ∧
      applied engine .containsAll options (.list [value]) = .ok true ∧
      applied engine .containsAll value value = .ok true := by
  intro engine one value options
  have serving : engine.Serves (.known .standard default) := Engine.serves_engine _
  have valueWellFormed : value.WellFormed := by
    simp [value, one, Value.WellFormed, Value.AllWellFormed, Value.EntriesWellFormed,
      Entries.DistinctKeys]
  have optionsWellFormed : options.WellFormed := by
    simp [options, Value.integer, Value.WellFormed, Value.AllWellFormed,
      Value.EntriesWellFormed, Entries.DistinctKeys]
  have nanFree : value.NaNFree := by
    simp [value, one, Value.NaNFree, Value.AllNaNFree, Value.EntriesNaNFree, Key.NaNFree]
  have requiredWellFormed : (Value.list [value, value]).WellFormed :=
    ⟨valueWellFormed, valueWellFormed, trivial⟩
  obtain ⟨agreeing, containing, sameItems, reflexive, -⟩ := applied_membership serving
  obtain ⟨member, -, isNotIn, contains, element, -, member_iff⟩ :=
    agreeing value options _ valueWellFormed optionsWellFormed rfl
  obtain rfl : member = true := by
    refine member_iff.mpr ⟨_, List.mem_cons_of_mem _ List.mem_cons_self, ?_⟩
    exact (applied_equal serving _ _).trans (congrArg Except.ok (by decide +kernel))
  obtain ⟨all, containsAll, all_iff⟩ := containing options (.list [value, value]) _
    optionsWellFormed requiredWellFormed ⟨_, .inr rfl⟩ rfl
  obtain rfl : all = true := all_iff.mpr (by simpa using contains)
  have once := sameItems options options (.list [value, value]) (.list [value])
    ⟨_, _, rfl, rfl, fun _ => Iff.rfl⟩ ⟨_, _, rfl, rfl, by simp⟩
  exact ⟨valueWellFormed, optionsWellFormed, nanFree, isNotIn, element, containsAll,
    once.symm.trans containsAll, reflexive value valueWellFormed nanFree ⟨_, .inl rfl⟩⟩

end Condition

end Criteria
