import Criteria.Proofs.Number.Exactness
import Criteria.Proofs.Value.Equality

/-!
# Equality as an equivalence

Equality of well-formed values is symmetric and transitive, and a value equals
itself if the undefined number stands nowhere in it, neither as a value nor in a
key.  What is compared besides is said layer by layer: exact values of numbers,
the items of collections of either kind, and the entries of mappings in any order.
-/

namespace Criteria

namespace Key

mutual

/-- The key is not the undefined number, nor a tuple that holds it. -/
def NaNFree (key : Key) : Prop :=
  match key with
  | .number value => value ≠ .binary .nan
  | .tuple items => AllNaNFree items
  | _ => True
termination_by structural key

def AllNaNFree (items : List Key) : Prop :=
  match items with
  | [] => True
  | item :: items => NaNFree item ∧ AllNaNFree items
termination_by structural items

end

end Key

namespace Value

mutual

/-- The undefined number is nowhere in the value, neither as a value nor in a
key. -/
def NaNFree (value : Value) : Prop :=
  match value with
  | .number value => value ≠ .binary .nan
  | .list items => AllNaNFree items
  | .tuple items => AllNaNFree items
  | .mapping entries => EntriesNaNFree entries
  | _ => True
termination_by structural value

def AllNaNFree (items : List Value) : Prop :=
  match items with
  | [] => True
  | item :: items => NaNFree item ∧ AllNaNFree items
termination_by structural items

def EntriesNaNFree (entries : List (Key × Value)) : Prop :=
  match entries with
  | [] => True
  | (key, value) :: entries => key.NaNFree ∧ NaNFree value ∧ EntriesNaNFree entries
termination_by structural entries

end

end Value

theorem Number.equal_refl {number : Number} (defined : number ≠ .binary .nan) :
    number.equal number = true := by
  rw [equal_iff]
  cases number with
  | integer value => exact ⟨_, rfl, rfl⟩
  | binary value =>
      rcases value with _ | (_ | _) | ⟨negative, steps⟩
      · exact absurd rfl defined
      all_goals exact ⟨_, rfl, rfl⟩

namespace Key

mutual

theorem same_refl {key : Key} (nanFree : key.NaNFree) : key.same key = true := by
  cases key with
  | null => rfl
  | boolean value => cases value <;> exact Number.equal_refl nofun
  | number value => exact Number.equal_refl nanFree
  | text value => simp [same]
  | date value => simp [same]
  | dateTime value => exact DateTime.same_iff.mpr ⟨rfl, rfl⟩
  | tuple items => exact sameItems_refl nanFree

theorem sameItems_refl {items : List Key} (nanFree : AllNaNFree items) :
    sameItems items items = true := by
  cases items with
  | nil => rfl
  | cons item items =>
      rw [sameItems, Bool.and_eq_true]
      exact ⟨same_refl nanFree.1, sameItems_refl nanFree.2⟩

end

end Key

namespace Value

theorem allNaNFree_iff {items : List Value} :
    AllNaNFree items ↔ ∀ item ∈ items, item.NaNFree := by
  induction items with
  | nil => simp [AllNaNFree]
  | cons item items induction => rw [AllNaNFree, induction, List.forall_mem_cons]

theorem entriesNaNFree_iff {entries : List (Key × Value)} :
    EntriesNaNFree entries ↔ ∀ entry ∈ entries, entry.1.NaNFree ∧ entry.2.NaNFree := by
  induction entries with
  | nil => simp [EntriesNaNFree]
  | cons entry rest induction =>
      rw [EntriesNaNFree, induction, List.forall_mem_cons, and_assoc]

theorem NaNFree.items {value : Value} (nanFree : value.NaNFree) {items : List Value}
    (held : value.items? = some items) : ∀ item ∈ items, item.NaNFree := by
  cases value with
  | list others | tuple others =>
      cases held
      exact allNaNFree_iff.mp nanFree
  | _ => cases held

theorem equal_refl {value : Value} (wellFormed : value.WellFormed)
    (nanFree : value.NaNFree) : value.equal value = true := by
  induction value using Value.induction with
  | atom value noItems noEntries =>
      cases value with
      | number number => exact Number.equal_refl nanFree
      | dateTime dateTime => exact DateTime.same_iff.mpr ⟨rfl, rfl⟩
      | list items | tuple items => cases noItems
      | mapping entries => cases noEntries
      | _ => simp [equal]
  | collection value items held itemsRefl =>
      refine (equal_of_items held value).mpr ⟨items, held, List.forall₂_same.mpr ?_⟩
      intro item member
      exact itemsRefl item member (wellFormed_of_mem_items wellFormed held member)
        (nanFree.items held item member)
  | mapping entries entriesRefl =>
      obtain ⟨distinct, entriesWellFormed⟩ := wellFormed
      refine equal_iff_alike.mpr (.mapping rfl ?_)
      intro entry member
      obtain ⟨keyFree, valueFree⟩ := entriesNaNFree_iff.mp nanFree entry member
      refine ⟨entry.2, Entries.lookup_of_mem distinct member (Key.same_refl keyFree), ?_⟩
      exact entriesRefl entry member
        (wellFormed_of_mem_entries entriesWellFormed member) valueFree

/-- Mappings are equal if and only if their entries are, in some order. -/
theorem equal_mapping_iff {entries others : List (Key × Value)}
    (distinct : Entries.DistinctKeys entries)
    (othersDistinct : Entries.DistinctKeys others) :
    (mapping entries).equal (mapping others) = true ↔
      ∃ reordered, reordered.Perm others ∧
        List.Forall₂ (Entries.Paired fun value other => value.equal other = true)
          entries reordered := by
  constructor
  · intro equal
    cases equal_iff_alike.mp equal with
    | collection held => cases held
    | mapping sameLength found =>
        exact Entries.exists_paired_of_all_found _ distinct sameLength found
  · rintro ⟨reordered, permuted, each⟩
    refine equal_iff_alike.mpr (.mapping (each.length_eq.trans permuted.length_eq) ?_)
    intro entry member
    obtain ⟨other, otherMember, same, equal⟩ :=
      Entries.exists_related_left each.flip member
    exact ⟨other.2, Entries.lookup_of_mem othersDistinct (permuted.mem_iff.mp otherMember)
      (Key.same_symm same), equal⟩

/-- Equality is an equivalence of the well-formed values that are free of the
undefined number, and symmetric and transitive on all of them.  Numbers are equal
by their exact values, collections of either kind item by item, mappings by their
entries in any order, dates by the day, and date-times by the instant, if both or
neither have an offset. -/
theorem equal_equivalence :
    (∀ left right : Value, left.WellFormed → right.WellFormed →
      left.equal right = right.equal left) ∧
    (∀ left middle right : Value, left.equal middle = true → middle.equal right = true →
      left.equal right = true) ∧
    (∀ value : Value, value.WellFormed → value.NaNFree → value.equal value = true) ∧
    (∀ left right : Number, (number left).equal (number right) = true ↔
      ∃ exact, left.exactValue? = some exact ∧ right.exactValue? = some exact) ∧
    (∀ (left right : Value) (items others : List Value),
      left.items? = some items → right.items? = some others →
      (left.equal right = true ↔
        List.Forall₂ (fun item other => item.equal other = true) items others)) ∧
    (∀ entries others : List (Key × Value),
      (mapping entries).WellFormed → (mapping others).WellFormed →
      ((mapping entries).equal (mapping others) = true ↔
        ∃ reordered, reordered.Perm others ∧
          List.Forall₂ (fun entry other => entry.1.same other.1 = true ∧
            entry.2.equal other.2 = true) entries reordered)) ∧
    (∀ day other, (date day).equal (date other) = true ↔ day = other) ∧
    (∀ left right, (dateTime left).equal (dateTime right) = true ↔
      left.offset.isSome = right.offset.isSome ∧
        left.instant.microseconds = right.instant.microseconds) ∧
    (∀ day moment, (date day).equal (dateTime moment) = false) := by
  refine ⟨?_, fun _ _ _ => equal_trans, fun _ => equal_refl,
    fun _ _ => Number.equal_iff_exact, ?_, ?_, ?_, fun _ _ => DateTime.same_iff, ?_⟩
  · intro left right leftWellFormed rightWellFormed
    rw [Bool.eq_iff_iff]
    exact ⟨equal_symm leftWellFormed, equal_symm rightWellFormed⟩
  · intro left right items others held otherHeld
    rw [equal_of_items held, otherHeld]
    simp
  · intro entries others wellFormed othersWellFormed
    exact equal_mapping_iff wellFormed.1 othersWellFormed.1
  · intro day other
    simp [equal]
  · intro day moment
    rfl

theorem equal_equivalence_of_mixed_formats :
    let left := mapping [(.number (.integer 1), list [integer 2, null]),
      (.text "a", mapping [])]
    let right := mapping [(.text "a", mapping []),
      (.boolean true, tuple [number (.binary (.finite false (2 * Binary64.stepsPerUnit))), null])]
    left.WellFormed ∧ right.WellFormed ∧ left.NaNFree ∧ left.equal left = true ∧
      left.equal right = true ∧ right.equal left = true := by
  intro left right
  have leftWellFormed : left.WellFormed := by
    simp [left, WellFormed, EntriesWellFormed, AllWellFormed, integer,
      Entries.DistinctKeys, Key.same, Key.number?]
  have rightWellFormed : right.WellFormed := by
    simp [right, WellFormed, EntriesWellFormed, AllWellFormed,
      Entries.DistinctKeys, Key.same]
  have nanFree : left.NaNFree := by
    simp [left, NaNFree, EntriesNaNFree, AllNaNFree, Key.NaNFree, integer]
  have equal : left.equal right = true := by decide +kernel
  obtain ⟨symm, -, refl, -⟩ := equal_equivalence
  refine ⟨leftWellFormed, rightWellFormed, nanFree, refl left leftWellFormed nanFree,
    equal, ?_⟩
  rw [← symm left right leftWellFormed rightWellFormed]
  exact equal

end Value

end Criteria
