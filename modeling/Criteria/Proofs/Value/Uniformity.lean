import Criteria.Proofs.Value.Equivalence

/-!
# One rule for values and keys

Data are equal under one rule at every depth if their keys are compared as values
are, so that truth values are told from numbers in keys as well.  Equality finds
entries by their keys instead, and there truth values count as numbers.  The two
agree wherever no truth value in a key is found under a number, and data that are
equal under the one rule are always equal.
-/

namespace Criteria

theorem Number.equal_integer_iff {left right : Int} :
    (Number.integer left).equal (.integer right) = true ↔ left = right := by
  rw [equal_iff_exact]
  constructor
  · rintro ⟨value, leftValue, rightValue⟩
    simpa [exactValue?] using leftValue.trans rightValue.symm
  · rintro rfl
    exact ⟨_, rfl, rfl⟩

namespace Key

/-- Induction on the items of tuples. -/
theorem induction {motive : Key → Prop}
    (atom : ∀ key, (∀ items, key ≠ .tuple items) → motive key)
    (tuple : ∀ items, (∀ item ∈ items, motive item) → motive (.tuple items)) (key : Key) :
    motive key := by
  cases key with
  | tuple items =>
      apply tuple
      intro item member
      have smaller := List.sizeOf_lt_of_mem member
      exact induction atom tuple item
  | _ => exact atom _ (by simp)
termination_by sizeOf key
decreasing_by
  simp only [Key.tuple.sizeOf_spec] at *
  omega

mutual

/-- The value that is written as the key. -/
def toValue (key : Key) : Value :=
  match key with
  | .null => .null
  | .boolean value => .boolean value
  | .number value => .number value
  | .text value => .text value
  | .date value => .date value
  | .dateTime value => .dateTime value
  | .tuple items => .tuple (toValues items)
termination_by structural key

def toValues (items : List Key) : List Value :=
  match items with
  | [] => []
  | item :: items => toValue item :: toValues items
termination_by structural items

end

theorem toValues_eq_map (items : List Key) : toValues items = items.map toValue := by
  induction items with
  | nil => rfl
  | cons item items induction => rw [toValues, induction, List.map_cons]

mutual

/-- The data that a key is made of, none of them a tuple. -/
def parts (key : Key) : List Key :=
  match key with
  | .tuple items => partsOfAll items
  | key => [key]
termination_by structural key

def partsOfAll (items : List Key) : List Key :=
  match items with
  | [] => []
  | item :: items => parts item ++ partsOfAll items
termination_by structural items

end

def isTruth : Key → Bool
  | .boolean _ => true
  | _ => false

/-- No truth value of one list finds a number of the other, nor the other way
round. -/
def Apart (parts others : List Key) : Prop :=
  ∀ part ∈ parts, ∀ other ∈ others, part.same other = true → part.isTruth = other.isTruth

theorem Apart.mono {parts others fewer fewerOthers : List Key} (apart : Apart parts others)
    (included : fewer ⊆ parts) (othersIncluded : fewerOthers ⊆ others) :
    Apart fewer fewerOthers :=
  fun part member other otherMember =>
    apart part (included member) other (othersIncluded otherMember)

mutual

/-- Keys that are equal as values find each other. -/
theorem same_of_equal {left right : Key} (equal : left.toValue.equal right.toValue = true) :
    left.same right = true := by
  cases left with
  | tuple items =>
      cases right with
      | tuple others => exact sameItems_of_equal equal
      | _ => cases equal
  | boolean value =>
      cases right with
      | boolean other =>
          obtain rfl : value = other := by
            simpa [toValue, Value.equal] using equal
          exact same_refl trivial
      | _ => cases equal
  | _ => cases right <;> first | exact equal | cases equal

theorem sameItems_of_equal {left right : List Key}
    (equal : Value.itemsEqual (toValues left) (toValues right) = true) :
    sameItems left right = true := by
  cases left with
  | nil => cases right <;> first | rfl | cases equal
  | cons item items =>
      cases right with
      | nil => cases equal
      | cons other others =>
          rw [toValues, toValues, Value.itemsEqual, Bool.and_eq_true] at equal
          rw [sameItems, Bool.and_eq_true]
          exact ⟨same_of_equal equal.1, sameItems_of_equal equal.2⟩

end

mutual

/-- Keys that find each other are equal as values, unless a truth value in one of
them has found a number in the other. -/
theorem equal_of_same {left right : Key} (apart : Apart left.parts right.parts)
    (found : left.same right = true) : left.toValue.equal right.toValue = true := by
  cases left with
  | tuple items =>
      cases right with
      | tuple others => exact itemsEqual_of_same apart found
      | _ => cases found
  | boolean value =>
      have alike := apart _ List.mem_cons_self
      cases right with
      | boolean other =>
          have counted := Number.equal_integer_iff.mp found
          cases value <;> cases other <;> first | rfl | cases counted
      | number other => cases alike _ List.mem_cons_self found
      | _ => cases found
  | number value =>
      have alike := apart _ List.mem_cons_self
      cases right with
      | boolean other => cases alike _ List.mem_cons_self found
      | number other => exact found
      | _ => cases found
  | _ => cases right <;> exact found

theorem itemsEqual_of_same {left right : List Key}
    (apart : Apart (partsOfAll left) (partsOfAll right))
    (found : sameItems left right = true) :
    Value.itemsEqual (toValues left) (toValues right) = true := by
  cases left with
  | nil => cases right <;> first | rfl | cases found
  | cons item items =>
      cases right with
      | nil => cases found
      | cons other others =>
          rw [sameItems, Bool.and_eq_true] at found
          rw [toValues, toValues, Value.itemsEqual, Bool.and_eq_true]
          exact ⟨equal_of_same (apart.mono (List.subset_append_left _ _)
              (List.subset_append_left _ _)) found.1,
            itemsEqual_of_same (apart.mono (List.subset_append_right _ _)
              (List.subset_append_right _ _)) found.2⟩

end

end Key

namespace Value

mutual

/-- Equality under one rule for all data: truth values are equal to themselves,
numbers by their exact values, texts and dates as they are, date-times by the
instant, collections item by item, and mappings if their entries can be paired, the
keys of a pair being equal under the same rule as well as the values. -/
inductive Uniform : Value → Value → Prop where
  | null : Uniform .null .null
  | boolean (value : Bool) : Uniform (.boolean value) (.boolean value)
  | number {left right : Number} {exact : WithBot (WithTop ℚ)} :
      left.exactValue? = some exact → right.exactValue? = some exact →
      Uniform (.number left) (.number right)
  | text (value : String) : Uniform (.text value) (.text value)
  | date (value : Date) : Uniform (.date value) (.date value)
  | dateTime {left right : DateTime} :
      left.offset.isSome = right.offset.isSome →
      left.instant.microseconds = right.instant.microseconds →
      Uniform (.dateTime left) (.dateTime right)
  | collection {left right : Value} {items others : List Value} :
      left.items? = some items → right.items? = some others →
      List.Forall₂ Uniform items others → Uniform left right
  | mapping {entries reordered others : List (Key × Value)} :
      List.Forall₂ UniformEntry entries reordered → reordered.Perm others →
      Uniform (.mapping entries) (.mapping others)

/-- Entries whose keys and whose values are equal. -/
inductive UniformEntry : Key × Value → Key × Value → Prop where
  | entry {key other : Key} {value counterpart : Value} :
      Uniform key.toValue other.toValue → Uniform value counterpart →
      UniformEntry (key, value) (other, counterpart)

end

section Layers

theorem uniform_iff_equal_of_atom {left right : Value} (noItems : left.items? = none)
    (noEntries : left.entries? = none) :
    left.Uniform right ↔ left.equal right = true := by
  constructor
  · intro uniform
    cases uniform with
    | number leftExact rightExact =>
        exact Number.equal_iff_exact.mpr ⟨_, leftExact, rightExact⟩
    | dateTime offsets instants => exact DateTime.same_iff.mpr ⟨offsets, instants⟩
    | collection held => rw [held] at noItems; cases noItems
    | mapping => cases noEntries
    | _ => simp [equal]
  · intro equal
    cases equal_iff_alike.mp equal with
    | null => exact .null
    | boolean value => exact .boolean value
    | number same =>
        obtain ⟨exact, leftExact, rightExact⟩ := Number.equal_iff_exact.mp same
        exact .number leftExact rightExact
    | text value => exact .text value
    | date value => exact .date value
    | dateTime same =>
        obtain ⟨offsets, instants⟩ := DateTime.same_iff.mp same
        exact .dateTime offsets instants
    | collection held => rw [held] at noItems; cases noItems
    | mapping => cases noEntries

theorem uniform_of_items {left : Value} {items : List Value}
    (held : left.items? = some items) (right : Value) :
    left.Uniform right ↔ ∃ others, right.items? = some others ∧
      List.Forall₂ Uniform items others := by
  constructor
  · intro uniform
    cases uniform with
    | collection leftHeld rightHeld each =>
        obtain rfl := Option.some.inj (held.symm.trans leftHeld)
        exact ⟨_, rightHeld, each⟩
    | _ => cases held
  · rintro ⟨others, rightHeld, each⟩
    exact .collection held rightHeld each

theorem uniform_mapping_iff {entries : List (Key × Value)} {right : Value} :
    (mapping entries).Uniform right ↔ ∃ others reordered, right = mapping others ∧
      reordered.Perm others ∧ List.Forall₂ UniformEntry entries reordered := by
  constructor
  · intro uniform
    cases uniform with
    | collection held => cases held
    | mapping each permuted => exact ⟨_, _, rfl, permuted, each⟩
  · rintro ⟨others, reordered, rfl, permuted, each⟩
    exact .mapping each permuted

theorem forall₂_imp_of_mem {related weaker : α → β → Prop} {items : List α} {others : List β}
    (imply : ∀ item ∈ items, ∀ other ∈ others, related item other → weaker item other)
    (each : List.Forall₂ related items others) : List.Forall₂ weaker items others := by
  induction each with
  | nil => exact .nil
  | cons head tail induction =>
      refine .cons (imply _ List.mem_cons_self _ List.mem_cons_self head) (induction ?_)
      intro item later other otherLater
      exact imply item (List.mem_cons_of_mem _ later) other (List.mem_cons_of_mem _ otherLater)

/-- Keys hold no mappings, and without these there is only one rule. -/
theorem uniform_toValue_iff {key : Key} {right : Value} :
    key.toValue.Uniform right ↔ key.toValue.equal right = true := by
  induction key using Key.induction generalizing right with
  | atom key noTuple =>
      cases key with
      | tuple items => exact absurd rfl (noTuple items)
      | _ => exact uniform_iff_equal_of_atom rfl rfl
  | tuple items itemsUniform =>
      have held : (Key.tuple items).toValue.items? = some (items.map Key.toValue) := by
        rw [← Key.toValues_eq_map]
        rfl
      rw [uniform_of_items held, equal_of_items held]
      refine exists_congr fun others => and_congr_right fun _ => ?_
      rw [List.forall₂_map_left_iff, List.forall₂_map_left_iff]
      constructor
      · exact forall₂_imp_of_mem fun item member other _ => (itemsUniform item member).mp
      · exact forall₂_imp_of_mem fun item member other _ => (itemsUniform item member).mpr

end Layers

mutual

/-- The data that the keys of all mappings are made of, at any depth. -/
def keyParts (value : Value) : List Key :=
  match value with
  | .list items => itemsKeyParts items
  | .tuple items => itemsKeyParts items
  | .mapping entries => entriesKeyParts entries
  | _ => []
termination_by structural value

def itemsKeyParts (items : List Value) : List Key :=
  match items with
  | [] => []
  | item :: items => keyParts item ++ itemsKeyParts items
termination_by structural items

def entriesKeyParts (entries : List (Key × Value)) : List Key :=
  match entries with
  | [] => []
  | (key, value) :: entries => key.parts ++ keyParts value ++ entriesKeyParts entries
termination_by structural entries

end

section Parts

theorem keyParts_subset_of_mem {items : List Value} {item : Value} (member : item ∈ items) :
    item.keyParts ⊆ itemsKeyParts items := by
  induction items with
  | nil => cases member
  | cons first rest induction =>
      rw [itemsKeyParts]
      rcases List.mem_cons.mp member with rfl | later
      · exact List.subset_append_left _ _
      · exact List.subset_append_of_subset_right _ (induction later)

theorem keyParts_of_items {value : Value} {items : List Value}
    (held : value.items? = some items) : value.keyParts = itemsKeyParts items := by
  cases value with
  | list others | tuple others =>
      cases held
      rfl
  | _ => cases held

theorem parts_subset_of_mem {entries : List (Key × Value)} {entry : Key × Value}
    (member : entry ∈ entries) :
    entry.1.parts ⊆ entriesKeyParts entries ∧
      entry.2.keyParts ⊆ entriesKeyParts entries := by
  induction entries with
  | nil => cases member
  | cons first rest induction =>
      rw [entriesKeyParts]
      rcases List.mem_cons.mp member with rfl | later
      · exact ⟨List.subset_append_of_subset_left _ (List.subset_append_left _ _),
          List.subset_append_of_subset_left _ (List.subset_append_right _ _)⟩
      · exact ⟨List.subset_append_of_subset_right _ (induction later).1,
          List.subset_append_of_subset_right _ (induction later).2⟩

end Parts

/-- What is equal under the one rule is equal. -/
theorem equal_of_uniform {left right : Value} (wellFormed : right.WellFormed)
    (uniform : left.Uniform right) : left.equal right = true := by
  induction left using Value.induction generalizing right with
  | atom left noItems noEntries =>
      exact (uniform_iff_equal_of_atom noItems noEntries).mp uniform
  | collection left items held itemsEqual =>
      obtain ⟨others, otherHeld, each⟩ := (uniform_of_items held right).mp uniform
      refine (equal_of_items held right).mpr ⟨others, otherHeld, ?_⟩
      exact forall₂_imp_of_mem (fun item member other otherMember =>
        itemsEqual item member
          (wellFormed_of_mem_items wellFormed otherHeld otherMember)) each
  | mapping entries entriesEqual =>
      obtain ⟨others, reordered, rfl, permuted, each⟩ := uniform_mapping_iff.mp uniform
      obtain ⟨distinct, entriesWellFormed⟩ := wellFormed
      refine equal_iff_alike.mpr (.mapping (each.length_eq.trans permuted.length_eq) ?_)
      intro entry member
      obtain ⟨other, otherMember, paired⟩ := Entries.exists_related_left each.flip member
      cases paired with
      | @entry key otherKey value counterpart keyUniform valueUniform =>
          have inOthers := permuted.mem_iff.mp otherMember
          have found := Key.same_of_equal (uniform_toValue_iff.mp keyUniform)
          exact ⟨counterpart, Entries.lookup_of_mem distinct inOthers (Key.same_symm found),
            entriesEqual _ member (wellFormed_of_mem_entries entriesWellFormed inOthers)
              valueUniform⟩

/-- What is equal is equal under the one rule, unless a truth value in a key has
found a number. -/
theorem uniform_of_equal {left right : Value} (wellFormed : left.WellFormed)
    (apart : Key.Apart left.keyParts right.keyParts) (equal : left.equal right = true) :
    left.Uniform right := by
  induction left using Value.induction generalizing right with
  | atom left noItems noEntries =>
      exact (uniform_iff_equal_of_atom noItems noEntries).mpr equal
  | collection left items held itemsUniform =>
      obtain ⟨others, otherHeld, each⟩ := (equal_of_items held right).mp equal
      rw [keyParts_of_items held, keyParts_of_items otherHeld] at apart
      refine (uniform_of_items held right).mpr ⟨others, otherHeld, ?_⟩
      exact forall₂_imp_of_mem (fun item member other otherMember =>
        itemsUniform item member (wellFormed_of_mem_items wellFormed held member)
          (apart.mono (keyParts_subset_of_mem member)
            (keyParts_subset_of_mem otherMember))) each
  | mapping entries entriesUniform =>
      cases equal_iff_alike.mp equal with
      | collection held => cases held
      | mapping sameLength found =>
          obtain ⟨distinct, entriesWellFormed⟩ := wellFormed
          obtain ⟨reordered, permuted, each⟩ :=
            Entries.exists_paired_of_all_found (fun value other => value.equal other = true)
              distinct sameLength found
          refine .mapping (forall₂_imp_of_mem ?_ each) permuted
          rintro ⟨key, value⟩ member ⟨other, counterpart⟩ otherMember ⟨keySame, valueEqual⟩
          obtain ⟨keyIncluded, valueIncluded⟩ := parts_subset_of_mem member
          obtain ⟨otherIncluded, counterpartIncluded⟩ :=
            parts_subset_of_mem (permuted.mem_iff.mp otherMember)
          refine .entry ?_ ?_
          · exact uniform_toValue_iff.mpr
              (Key.equal_of_same (apart.mono keyIncluded otherIncluded) keySame)
          · exact entriesUniform _ member
              (wellFormed_of_mem_entries entriesWellFormed member)
              (apart.mono valueIncluded counterpartIncluded) valueEqual

end Value

end Criteria
