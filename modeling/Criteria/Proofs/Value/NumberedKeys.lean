import Criteria.Proofs.Value.Uniformity

/-!
# Truth values in keys

To equality, a truth value in a key is the number that it counts as: equality is
the one rule for all data, applied to values in whose keys the numbers are written
for the truth values.  Mappings that differ in nothing but such a key are equal.
-/

namespace Criteria

namespace Key

mutual

/-- The key with the numbers that its truth values count as. -/
def numbered (key : Key) : Key :=
  match key with
  | .boolean value => .number (.integer (if value then 1 else 0))
  | .tuple items => .tuple (numberedAll items)
  | key => key
termination_by structural key

def numberedAll (items : List Key) : List Key :=
  match items with
  | [] => []
  | item :: items => numbered item :: numberedAll items
termination_by structural items

end

mutual

theorem same_numbered (left right : Key) :
    left.numbered.same right.numbered = left.same right := by
  cases left with
  | tuple items =>
      cases right with
      | tuple others => exact sameItems_numberedAll items others
      | _ => rfl
  | _ => cases right <;> rfl

theorem sameItems_numberedAll (items others : List Key) :
    sameItems (numberedAll items) (numberedAll others) = sameItems items others := by
  cases items with
  | nil => cases others <;> rfl
  | cons item items =>
      cases others with
      | nil => rfl
      | cons other others =>
          rw [numberedAll, numberedAll, sameItems, sameItems, same_numbered item other,
            sameItems_numberedAll items others]

end

mutual

theorem isTruth_of_mem_parts_numbered (key : Key) :
    ∀ part ∈ key.numbered.parts, part.isTruth = false := by
  cases key with
  | tuple items => exact isTruth_of_mem_partsOfAll_numberedAll items
  | _ => exact List.forall_mem_singleton.mpr rfl

theorem isTruth_of_mem_partsOfAll_numberedAll (items : List Key) :
    ∀ part ∈ partsOfAll (numberedAll items), part.isTruth = false := by
  cases items with
  | nil => exact nofun
  | cons item items =>
      rw [numberedAll, partsOfAll, List.forall_mem_append]
      exact ⟨isTruth_of_mem_parts_numbered item,
        isTruth_of_mem_partsOfAll_numberedAll items⟩

end

end Key

namespace Value

mutual

/-- The value with numbers for the truth values in its keys, at any depth. -/
def numberedKeys (value : Value) : Value :=
  match value with
  | .list items => .list (itemsNumbered items)
  | .tuple items => .tuple (itemsNumbered items)
  | .mapping entries => .mapping (entriesNumbered entries)
  | value => value
termination_by structural value

def itemsNumbered (items : List Value) : List Value :=
  match items with
  | [] => []
  | item :: items => numberedKeys item :: itemsNumbered items
termination_by structural items

def entriesNumbered (entries : List (Key × Value)) : List (Key × Value) :=
  match entries with
  | [] => []
  | (key, value) :: entries => (key.numbered, numberedKeys value) :: entriesNumbered entries
termination_by structural entries

end

theorem itemsNumbered_eq_map (items : List Value) :
    itemsNumbered items = items.map numberedKeys := by
  induction items with
  | nil => rfl
  | cons item items induction => rw [itemsNumbered, induction, List.map_cons]

theorem entriesNumbered_eq_map (entries : List (Key × Value)) :
    entriesNumbered entries =
      entries.map fun entry => (entry.1.numbered, entry.2.numberedKeys) := by
  induction entries with
  | nil => rfl
  | cons entry entries induction => rw [entriesNumbered, induction, List.map_cons]

theorem length_entriesNumbered (entries : List (Key × Value)) :
    (entriesNumbered entries).length = entries.length := by
  rw [entriesNumbered_eq_map, List.length_map]

theorem items?_numberedKeys (value : Value) :
    value.numberedKeys.items? = value.items?.map (List.map numberedKeys) := by
  cases value with
  | list items | tuple items => exact congrArg some (itemsNumbered_eq_map items)
  | _ => rfl

theorem lookup_entriesNumbered (key : Key) (entries : List (Key × Value)) :
    Entries.lookup key.numbered (entriesNumbered entries) =
      (Entries.lookup key entries).map numberedKeys := by
  induction entries with
  | nil => rfl
  | cons entry entries induction =>
      rw [entriesNumbered, Entries.lookup_cons, Entries.lookup_cons, Key.same_numbered,
        induction]
      split <;> rfl

theorem distinctKeys_entriesNumbered {entries : List (Key × Value)}
    (distinct : Entries.DistinctKeys entries) :
    Entries.DistinctKeys (entriesNumbered entries) := by
  induction entries with
  | nil => trivial
  | cons entry entries induction =>
      obtain ⟨different, restDistinct⟩ := distinct
      refine ⟨?_, induction restDistinct⟩
      rw [entriesNumbered_eq_map, List.forall_mem_map]
      intro other member
      rw [Key.same_numbered]
      exact different other member

mutual

theorem wellFormed_numberedKeys {value : Value} (wellFormed : value.WellFormed) :
    value.numberedKeys.WellFormed := by
  cases value with
  | list items | tuple items => exact allWellFormed_itemsNumbered wellFormed
  | mapping entries =>
      exact ⟨distinctKeys_entriesNumbered wellFormed.1,
        entriesWellFormed_entriesNumbered wellFormed.2⟩
  | _ => trivial

theorem allWellFormed_itemsNumbered {items : List Value} (wellFormed : AllWellFormed items) :
    AllWellFormed (itemsNumbered items) := by
  cases items with
  | nil => trivial
  | cons item items =>
      exact ⟨wellFormed_numberedKeys wellFormed.1, allWellFormed_itemsNumbered wellFormed.2⟩

theorem entriesWellFormed_entriesNumbered {entries : List (Key × Value)}
    (wellFormed : EntriesWellFormed entries) :
    EntriesWellFormed (entriesNumbered entries) := by
  cases entries with
  | nil => trivial
  | cons entry entries =>
      exact ⟨wellFormed_numberedKeys wellFormed.1,
        entriesWellFormed_entriesNumbered wellFormed.2⟩

end

mutual

theorem isTruth_of_mem_keyParts_numberedKeys (value : Value) :
    ∀ part ∈ value.numberedKeys.keyParts, part.isTruth = false := by
  cases value with
  | list items | tuple items => exact isTruth_of_mem_itemsKeyParts_itemsNumbered items
  | mapping entries => exact isTruth_of_mem_entriesKeyParts_entriesNumbered entries
  | _ => exact nofun

theorem isTruth_of_mem_itemsKeyParts_itemsNumbered (items : List Value) :
    ∀ part ∈ itemsKeyParts (itemsNumbered items), part.isTruth = false := by
  cases items with
  | nil => exact nofun
  | cons item items =>
      rw [itemsNumbered, itemsKeyParts, List.forall_mem_append]
      exact ⟨isTruth_of_mem_keyParts_numberedKeys item,
        isTruth_of_mem_itemsKeyParts_itemsNumbered items⟩

theorem isTruth_of_mem_entriesKeyParts_entriesNumbered (entries : List (Key × Value)) :
    ∀ part ∈ entriesKeyParts (entriesNumbered entries), part.isTruth = false := by
  cases entries with
  | nil => exact nofun
  | cons entry entries =>
      rw [entriesNumbered, entriesKeyParts, List.forall_mem_append, List.forall_mem_append]
      exact ⟨⟨entry.1.isTruth_of_mem_parts_numbered,
        isTruth_of_mem_keyParts_numberedKeys entry.2⟩,
        isTruth_of_mem_entriesKeyParts_entriesNumbered entries⟩

end

theorem apart_numberedKeys (left right : Value) :
    Key.Apart left.numberedKeys.keyParts right.numberedKeys.keyParts := by
  intro part member other otherMember _
  rw [isTruth_of_mem_keyParts_numberedKeys left part member,
    isTruth_of_mem_keyParts_numberedKeys right other otherMember]

/-- To equality, truth values in keys are numbers. -/
theorem equal_numberedKeys (left right : Value) :
    left.numberedKeys.equal right.numberedKeys = left.equal right := by
  induction left using Value.induction generalizing right with
  | atom left noItems noEntries =>
      cases left with
      | list items | tuple items => cases noItems
      | mapping entries => cases noEntries
      | _ => cases right <;> rfl
  | collection left items held itemsEqual =>
      have numberedHeld := items?_numberedKeys left
      rw [held, Option.map_some] at numberedHeld
      rw [Bool.eq_iff_iff, equal_of_items held, equal_of_items numberedHeld,
        items?_numberedKeys]
      cases right.items? with
      | none => simp
      | some others =>
          simp only [Option.map_some, Option.some.injEq, exists_eq_left',
            List.forall₂_map_left_iff, List.forall₂_map_right_iff]
          constructor
          · exact forall₂_imp_of_mem fun item member other _ equal =>
              (itemsEqual item member other).symm.trans equal
          · exact forall₂_imp_of_mem fun item member other _ equal =>
              (itemsEqual item member other).trans equal
  | mapping entries entriesEqual =>
      cases right with
      | mapping others =>
          rw [Bool.eq_iff_iff, numberedKeys, numberedKeys, equal, equal, Bool.and_eq_true,
            Bool.and_eq_true, beq_iff_eq, beq_iff_eq, entriesEqual_iff, entriesEqual_iff,
            entriesNumbered_eq_map entries, List.forall_mem_map, List.length_map,
            length_entriesNumbered others]
          refine and_congr_right fun _ => forall₂_congr fun entry member => ?_
          simp only [lookup_entriesNumbered, Option.map_eq_some_iff, exists_exists_and_eq_and,
            entriesEqual entry member]
      | _ => rfl

/-- Values equal under the one rule are equal, and no others are, unless a truth
value in a key meets a number; in every case equality is the one rule after numbers
are written for the truth values in keys. -/
theorem equal_iff_uniform {left right : Value} (leftWellFormed : left.WellFormed)
    (rightWellFormed : right.WellFormed) :
    (left.Uniform right → left.equal right = true) ∧
    (Key.Apart left.keyParts right.keyParts →
      (left.equal right = true ↔ left.Uniform right)) ∧
    (left.equal right = true ↔ left.numberedKeys.Uniform right.numberedKeys) := by
  refine ⟨equal_of_uniform rightWellFormed, fun apart =>
    ⟨uniform_of_equal leftWellFormed apart, equal_of_uniform rightWellFormed⟩, ?_⟩
  rw [← equal_numberedKeys]
  exact ⟨uniform_of_equal (wellFormed_numberedKeys leftWellFormed)
      (apart_numberedKeys left right),
    equal_of_uniform (wellFormed_numberedKeys rightWellFormed)⟩

theorem equal_iff_uniform_of_truth_key :
    let left := mapping [(.boolean true, text "yes"),
      (.number (.integer 2), list [integer 2, boolean false])]
    let right := mapping [
      (.number (.binary (.finite false (2 * Binary64.stepsPerUnit))),
        tuple [integer 2, boolean false]), (.boolean true, text "yes")]
    left.WellFormed ∧ right.WellFormed ∧ Key.Apart left.keyParts right.keyParts ∧
      left.Uniform right ∧ left.numberedKeys.Uniform right.numberedKeys := by
  intro left right
  have leftWellFormed : left.WellFormed := by
    have differ : Key.same (.boolean true) (.number (.integer 2)) = false := by
      decide +kernel
    simp [left, WellFormed, EntriesWellFormed, AllWellFormed, integer,
      Entries.DistinctKeys, differ]
  have rightWellFormed : right.WellFormed := by
    have differ : Key.same
        (.number (.binary (.finite false (2 * Binary64.stepsPerUnit))))
        (.boolean true) = false := by decide +kernel
    simp [right, WellFormed, EntriesWellFormed, AllWellFormed, integer,
      Entries.DistinctKeys, differ]
  have apart : Key.Apart left.keyParts right.keyParts := by
    unfold Key.Apart
    decide +kernel
  have equal : left.equal right = true := by decide +kernel
  obtain ⟨-, agree, numbered⟩ := equal_iff_uniform leftWellFormed rightWellFormed
  exact ⟨leftWellFormed, rightWellFormed, apart, (agree apart).mp equal, numbered.mp equal⟩

theorem equal_truth_key_number_key :
    let left := mapping [(.boolean true, text "x")]
    let right := mapping [(.number (.integer 1), text "x")]
    left.WellFormed ∧ right.WellFormed ∧ left.equal right = true ∧ ¬left.Uniform right := by
  intro left right
  refine ⟨?_, ?_, by decide +kernel, ?_⟩
  · simp [left, WellFormed, EntriesWellFormed, Entries.DistinctKeys]
  · simp [right, WellFormed, EntriesWellFormed, Entries.DistinctKeys]
  · intro uniform
    obtain ⟨others, reordered, held, permuted, each⟩ := uniform_mapping_iff.mp uniform
    obtain rfl := mapping.inj held
    rw [List.perm_singleton.mp permuted] at each
    cases each with
    | cons paired _ =>
        cases paired with
        | entry keyUniform _ => cases uniform_toValue_iff.mp keyUniform

end Value

end Criteria
