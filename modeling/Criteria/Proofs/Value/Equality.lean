import Mathlib.Data.List.Forall2
import Criteria.Proofs.Value.Key
import Criteria.Value.Equality
import Criteria.Value.Kind

/-!
# Equality of values

Equality is read off the outermost layer of two values and holds of the parts
beneath it.  It is transitive, and symmetric from a well-formed value, so that
equal values are equal to the same values.
-/

namespace Criteria

namespace Value

/-- Induction on the items of collections and the values of mappings. -/
theorem induction {motive : Value → Prop}
    (atom : ∀ value, value.items? = none → value.entries? = none → motive value)
    (collection : ∀ value items, value.items? = some items →
      (∀ item ∈ items, motive item) → motive value)
    (mapping : ∀ entries, (∀ entry ∈ entries, motive entry.2) →
      motive (.mapping entries)) (value : Value) : motive value := by
  cases value with
  | list items =>
      apply collection _ items rfl
      intro item member
      have smaller := List.sizeOf_lt_of_mem member
      exact induction atom collection mapping item
  | tuple items =>
      apply collection _ items rfl
      intro item member
      have smaller := List.sizeOf_lt_of_mem member
      exact induction atom collection mapping item
  | mapping entries =>
      apply mapping
      rintro ⟨key, kept⟩ member
      have smaller := List.sizeOf_lt_of_mem member
      exact induction atom collection mapping kept
  | _ => exact atom _ rfl rfl
termination_by sizeOf value
decreasing_by
  all_goals
    simp only [Value.list.sizeOf_spec, Value.tuple.sizeOf_spec,
      Value.mapping.sizeOf_spec, Prod.mk.sizeOf_spec] at *
    omega

section WellFormed

theorem WellFormed.items {value : Value} (wellFormed : value.WellFormed)
    {items : List Value} (held : value.items? = some items) : AllWellFormed items := by
  cases value with
  | list others | tuple others =>
      cases held
      exact wellFormed
  | _ => cases held

theorem wellFormed_of_mem_items {value : Value} {items : List Value}
    (wellFormed : value.WellFormed) (held : value.items? = some items)
    {item : Value} (member : item ∈ items) : item.WellFormed := by
  have all := wellFormed.items held
  clear held wellFormed
  induction items with
  | nil => cases member
  | cons first rest induction =>
      obtain ⟨firstWellFormed, restWellFormed⟩ := all
      rcases List.mem_cons.mp member with rfl | later
      · exact firstWellFormed
      · exact induction later restWellFormed

theorem wellFormed_of_mem_entries {entries : List (Key × Value)}
    (wellFormed : EntriesWellFormed entries) {entry : Key × Value}
    (member : entry ∈ entries) : entry.2.WellFormed := by
  induction entries with
  | nil => cases member
  | cons first rest induction =>
      obtain ⟨firstWellFormed, restWellFormed⟩ := wellFormed
      rcases List.mem_cons.mp member with rfl | later
      · exact firstWellFormed
      · exact induction restWellFormed later

theorem wellFormed_of_lookup {entries : List (Key × Value)} {key : Key}
    {value : Value} (wellFormed : (mapping entries).WellFormed)
    (found : Entries.lookup key entries = some value) : value.WellFormed := by
  obtain ⟨entry, member, -, rfl⟩ := Entries.exists_mem_of_lookup found
  exact wellFormed_of_mem_entries wellFormed.2 member

end WellFormed

section Layers

/-- Equality of the outermost layers, with equal values beneath them. -/
inductive Alike : Value → Value → Prop where
  | null : Alike .null .null
  | boolean (value : Bool) : Alike (.boolean value) (.boolean value)
  | number {left right : Number} : left.equal right = true →
      Alike (.number left) (.number right)
  | text (value : String) : Alike (.text value) (.text value)
  | date (value : Date) : Alike (.date value) (.date value)
  | dateTime {left right : DateTime} : left.same right = true →
      Alike (.dateTime left) (.dateTime right)
  | collection {left right : Value} {items others : List Value} :
      left.items? = some items → right.items? = some others →
      List.Forall₂ (fun item other => item.equal other = true) items others →
      Alike left right
  | mapping {entries others : List (Key × Value)} :
      entries.length = others.length →
      (∀ entry ∈ entries, ∃ value, Entries.lookup entry.1 others = some value ∧
        entry.2.equal value = true) →
      Alike (.mapping entries) (.mapping others)

theorem itemsEqual_iff {items others : List Value} :
    itemsEqual items others = true ↔
      List.Forall₂ (fun item other => item.equal other = true) items others := by
  induction items generalizing others with
  | nil => cases others <;> simp [itemsEqual]
  | cons item items induction =>
      cases others with
      | nil => simp [itemsEqual]
      | cons other others => simp [itemsEqual, induction]

theorem entriesEqual_iff {entries others : List (Key × Value)} :
    entriesEqual entries others = true ↔
      ∀ entry ∈ entries, ∃ value, Entries.lookup entry.1 others = some value ∧
        entry.2.equal value = true := by
  induction entries with
  | nil => simp [entriesEqual]
  | cons entry rest induction =>
      obtain ⟨key, value⟩ := entry
      rw [entriesEqual, Bool.and_eq_true, induction, List.forall_mem_cons]
      cases Entries.lookup key others <;> simp

theorem equal_of_items {left : Value} {items : List Value}
    (held : left.items? = some items) (right : Value) :
    left.equal right = true ↔ ∃ others, right.items? = some others ∧
      List.Forall₂ (fun item other => item.equal other = true) items others := by
  have read : left.equal right = right.items?.elim false (itemsEqual items) := by
    cases left with
    | list others =>
        cases held
        rw [equal]
        cases right.items? <;> rfl
    | tuple others =>
        cases held
        rw [equal]
        cases right.items? <;> rfl
    | _ => cases held
  rw [read]
  cases right.items? with
  | none => simp
  | some others => simp [itemsEqual_iff]

theorem equal_iff_alike {left right : Value} :
    left.equal right = true ↔ Alike left right := by
  constructor
  · intro equal
    cases left with
    | null =>
        cases right with
        | null => exact .null
        | _ => cases equal
    | boolean value =>
        cases right with
        | boolean other =>
            have same : value = other := by simpa [Value.equal] using equal
            rw [same]
            exact .boolean other
        | _ => cases equal
    | number value =>
        cases right with
        | number other => exact .number equal
        | _ => cases equal
    | text value =>
        cases right with
        | text other =>
            have same : value = other := by simpa [Value.equal] using equal
            rw [same]
            exact .text other
        | _ => cases equal
    | date value =>
        cases right with
        | date other =>
            have same : value = other := by simpa [Value.equal] using equal
            rw [same]
            exact .date other
        | _ => cases equal
    | dateTime value =>
        cases right with
        | dateTime other => exact .dateTime equal
        | _ => cases equal
    | list items =>
        obtain ⟨others, held, each⟩ := (equal_of_items rfl right).mp equal
        exact .collection rfl held each
    | tuple items =>
        obtain ⟨others, held, each⟩ := (equal_of_items rfl right).mp equal
        exact .collection rfl held each
    | mapping entries =>
        cases right with
        | mapping others =>
            rw [Value.equal, Bool.and_eq_true, beq_iff_eq, entriesEqual_iff] at equal
            exact .mapping equal.1 equal.2
        | _ => cases equal
  · intro alike
    cases alike with
    | null => rfl
    | boolean value => simp [equal]
    | number same => exact same
    | text value => simp [equal]
    | date value => simp [equal]
    | dateTime same => exact same
    | collection held otherHeld each =>
        exact (equal_of_items held right).mpr ⟨_, otherHeld, each⟩
    | mapping sameLength found =>
        rw [equal, Bool.and_eq_true, beq_iff_eq, entriesEqual_iff]
        exact ⟨sameLength, found⟩

end Layers

section Laws

theorem forall₂_trans {related : Value → Value → Prop}
    {items others lasts : List Value}
    (trans : ∀ item ∈ items, ∀ {other last}, related item other →
      related other last → related item last)
    (first : List.Forall₂ related items others)
    (second : List.Forall₂ related others lasts) :
    List.Forall₂ related items lasts := by
  induction first generalizing lasts with
  | nil => exact second
  | cons head tail induction =>
      cases second with
      | cons otherHead otherTail =>
          refine .cons (trans _ List.mem_cons_self head otherHead) ?_
          exact induction
            (fun item later => trans item (List.mem_cons_of_mem _ later)) otherTail

theorem forall₂_symm {related : Value → Value → Prop} {items others : List Value}
    (symm : ∀ item ∈ items, ∀ {other}, related item other → related other item)
    (each : List.Forall₂ related items others) :
    List.Forall₂ related others items := by
  induction each with
  | nil => exact .nil
  | cons head tail induction =>
      refine .cons (symm _ List.mem_cons_self head) ?_
      exact induction fun item later => symm item (List.mem_cons_of_mem _ later)

theorem equal_trans {left middle right : Value} (first : left.equal middle = true)
    (second : middle.equal right = true) : left.equal right = true := by
  induction left using Value.induction generalizing middle right with
  | atom left noItems noEntries =>
      cases equal_iff_alike.mp first with
      | null => exact second
      | boolean value => exact second
      | text value => exact second
      | date value => exact second
      | number same =>
          cases equal_iff_alike.mp second with
          | number other =>
              exact equal_iff_alike.mpr (.number (Number.equal_trans same other))
          | collection held => cases held
      | dateTime same =>
          cases equal_iff_alike.mp second with
          | dateTime other =>
              exact equal_iff_alike.mpr (.dateTime (DateTime.same_trans same other))
          | collection held => cases held
      | collection held => rw [held] at noItems; cases noItems
      | mapping => cases noEntries
  | collection left items held itemsTrans =>
      obtain ⟨others, othersHeld, each⟩ := (equal_of_items held middle).mp first
      obtain ⟨lasts, lastsHeld, othersEach⟩ :=
        (equal_of_items othersHeld right).mp second
      refine (equal_of_items held right).mpr ⟨lasts, lastsHeld, ?_⟩
      exact forall₂_trans (fun item member => itemsTrans item member) each othersEach
  | mapping entries entriesTrans =>
      cases equal_iff_alike.mp first with
      | collection held => cases held
      | mapping sameLength found =>
          cases equal_iff_alike.mp second with
          | collection held => cases held
          | mapping otherLength otherFound =>
              refine equal_iff_alike.mpr (.mapping (sameLength.trans otherLength) ?_)
              intro entry member
              obtain ⟨value, valueFound, equal⟩ := found entry member
              obtain ⟨other, otherMember, same, rfl⟩ :=
                Entries.exists_mem_of_lookup valueFound
              obtain ⟨last, lastFound, otherEqual⟩ := otherFound other otherMember
              rw [Entries.lookup_congr same] at lastFound
              exact ⟨last, lastFound, entriesTrans entry member equal otherEqual⟩

theorem equal_symm {left right : Value} (wellFormed : left.WellFormed)
    (equal : left.equal right = true) : right.equal left = true := by
  induction left using Value.induction generalizing right with
  | atom left noItems noEntries =>
      cases equal_iff_alike.mp equal with
      | null => exact equal
      | boolean value => exact equal
      | text value => exact equal
      | date value => exact equal
      | number same => exact equal_iff_alike.mpr (.number (Number.equal_symm same))
      | dateTime same =>
          exact equal_iff_alike.mpr (.dateTime (DateTime.same_symm same))
      | collection held => rw [held] at noItems; cases noItems
      | mapping => cases noEntries
  | collection left items held itemsSymm =>
      obtain ⟨others, othersHeld, each⟩ := (equal_of_items held right).mp equal
      refine (equal_of_items othersHeld left).mpr ⟨items, held, ?_⟩
      exact forall₂_symm (fun item member =>
        itemsSymm item member (wellFormed_of_mem_items wellFormed held member)) each
  | mapping entries entriesSymm =>
      cases equal_iff_alike.mp equal with
      | collection held => cases held
      | mapping sameLength found =>
          obtain ⟨distinct, entriesWellFormed⟩ := wellFormed
          have reached := Entries.exists_of_all_found
            (fun value other => value.equal other = true) distinct sameLength found
          refine equal_iff_alike.mpr (.mapping sameLength.symm ?_)
          intro other otherMember
          obtain ⟨entry, member, same, entryEqual⟩ := reached other otherMember
          refine ⟨entry.2, Entries.lookup_of_mem distinct member same, ?_⟩
          exact entriesSymm entry member
            (wellFormed_of_mem_entries entriesWellFormed member) entryEqual

/-- Equal values are equal to the same values. -/
theorem equal_congr_left {left right : Value} (wellFormed : left.WellFormed)
    (equal : left.equal right = true) (other : Value) :
    left.equal other = right.equal other := by
  rw [Bool.eq_iff_iff]
  constructor
  · intro leftEqual
    exact equal_trans (equal_symm wellFormed equal) leftEqual
  · intro rightEqual
    exact equal_trans equal rightEqual

theorem equal_congr_right {left right : Value} (wellFormed : left.WellFormed)
    (equal : left.equal right = true) (other : Value) :
    other.equal left = other.equal right := by
  rw [Bool.eq_iff_iff]
  constructor
  · intro otherEqual
    exact equal_trans otherEqual equal
  · intro otherEqual
    exact equal_trans otherEqual (equal_symm wellFormed equal)

theorem kind_of_items {value : Value} {items : List Value}
    (held : value.items? = some items) : value.kind = .array := by
  cases value <;> first | rfl | cases held

theorem kind_eq_of_equal {left right : Value} (equal : left.equal right = true) :
    left.kind = right.kind := by
  cases equal_iff_alike.mp equal with
  | collection held otherHeld each =>
      rw [kind_of_items held, kind_of_items otherHeld]
  | _ => rfl

end Laws

end Value

end Criteria
