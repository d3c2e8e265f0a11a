import Mathlib.Data.List.Forall2
import Criteria.Proofs.Number.Equality
import Criteria.Value.Basic

/-!
# Keys that find the same entry

Finding the same entry is a symmetric and transitive relation of keys, so that
keys which find each other find the same entries.  If every key of one mapping
finds an entry of another mapping of the same size, then the entries of the two
are paired.
-/

namespace Criteria

namespace DateTime

theorem same_iff {left right : DateTime} :
    left.same right = true ↔
      left.offset.isSome = right.offset.isSome ∧
        left.instant.microseconds = right.instant.microseconds := by
  simp [same]

theorem same_symm {left right : DateTime} (same : left.same right = true) :
    right.same left = true := by
  obtain ⟨offsets, instants⟩ := same_iff.mp same
  exact same_iff.mpr ⟨offsets.symm, instants.symm⟩

theorem same_trans {left middle right : DateTime}
    (first : left.same middle = true) (second : middle.same right = true) :
    left.same right = true := by
  obtain ⟨firstOffsets, firstInstants⟩ := same_iff.mp first
  obtain ⟨secondOffsets, secondInstants⟩ := same_iff.mp second
  exact same_iff.mpr
    ⟨firstOffsets.trans secondOffsets, firstInstants.trans secondInstants⟩

end DateTime

namespace Key

theorem same_of_number {left right : Key} {number : Number}
    (counted : left.number? = some number) :
    left.same right = true ↔
      ∃ other, right.number? = some other ∧ number.equal other = true := by
  cases left with
  | boolean value =>
      cases counted
      rw [same]
      cases right.number? <;> simp
  | number value =>
      cases counted
      rw [same]
      cases right.number? <;> simp
  | _ => cases counted

theorem same_symm_of_number {left right : Key} {number : Number}
    (counted : left.number? = some number) (found : left.same right = true) :
    right.same left = true := by
  obtain ⟨other, otherCounted, equal⟩ := (same_of_number counted).mp found
  exact (same_of_number otherCounted).mpr
    ⟨number, counted, Number.equal_symm equal⟩

theorem same_trans_of_number {left middle right : Key} {number : Number}
    (counted : left.number? = some number) (first : left.same middle = true)
    (second : middle.same right = true) : left.same right = true := by
  obtain ⟨between, middleCounted, firstEqual⟩ := (same_of_number counted).mp first
  obtain ⟨other, otherCounted, secondEqual⟩ :=
    (same_of_number middleCounted).mp second
  exact (same_of_number counted).mpr
    ⟨other, otherCounted, Number.equal_trans firstEqual secondEqual⟩

mutual

theorem same_symm {left right : Key} (found : left.same right = true) :
    right.same left = true := by
  cases left with
  | boolean value => exact same_symm_of_number rfl found
  | number value => exact same_symm_of_number rfl found
  | null =>
      cases right with
      | null => rfl
      | _ => cases found
  | text value =>
      cases right with
      | text other =>
          have equal : value = other := by simpa [same] using found
          simp [same, equal]
      | _ => cases found
  | date value =>
      cases right with
      | date other =>
          have equal : value = other := by simpa [same] using found
          simp [same, equal]
      | _ => cases found
  | dateTime value =>
      cases right with
      | dateTime other => exact DateTime.same_symm found
      | _ => cases found
  | tuple items =>
      cases right with
      | tuple others => exact sameItems_symm found
      | _ => cases found

theorem sameItems_symm {left right : List Key} (found : sameItems left right = true) :
    sameItems right left = true := by
  cases left with
  | nil =>
      cases right with
      | nil => rfl
      | cons other others => cases found
  | cons item items =>
      cases right with
      | nil => cases found
      | cons other others =>
          rw [sameItems, Bool.and_eq_true] at found ⊢
          exact ⟨same_symm found.1, sameItems_symm found.2⟩

end

mutual

theorem same_trans {left middle right : Key} (first : left.same middle = true)
    (second : middle.same right = true) : left.same right = true := by
  cases left with
  | boolean value => exact same_trans_of_number rfl first second
  | number value => exact same_trans_of_number rfl first second
  | null =>
      cases middle with
      | null => exact second
      | _ => cases first
  | text value =>
      cases middle with
      | text other =>
          have equal : value = other := by simpa [same] using first
          rw [equal]
          exact second
      | _ => cases first
  | date value =>
      cases middle with
      | date other =>
          have equal : value = other := by simpa [same] using first
          rw [equal]
          exact second
      | _ => cases first
  | dateTime value =>
      cases middle with
      | dateTime other =>
          cases right with
          | dateTime last => exact DateTime.same_trans first second
          | _ => cases second
      | _ => cases first
  | tuple items =>
      cases middle with
      | tuple others =>
          cases right with
          | tuple last => exact sameItems_trans first second
          | _ => cases second
      | _ => cases first

theorem sameItems_trans {left middle right : List Key}
    (first : sameItems left middle = true) (second : sameItems middle right = true) :
    sameItems left right = true := by
  cases left with
  | nil =>
      cases middle with
      | nil => exact second
      | cons other others => cases first
  | cons item items =>
      cases middle with
      | nil => cases first
      | cons other others =>
          cases right with
          | nil => cases second
          | cons last lasts =>
              rw [sameItems, Bool.and_eq_true] at first second ⊢
              exact ⟨same_trans first.1 second.1, sameItems_trans first.2 second.2⟩

end

theorem same_congr_right {left right : Key} (found : left.same right = true)
    (key : Key) : key.same left = key.same right := by
  rw [Bool.eq_iff_iff]
  constructor
  · intro sameLeft
    exact same_trans sameLeft found
  · intro sameRight
    exact same_trans sameRight (same_symm found)

end Key

namespace Entries

theorem lookup_cons (key other : Key) (value : Value) (rest : List (Key × Value)) :
    lookup key ((other, value) :: rest) =
      if other.same key then some value else lookup key rest :=
  rfl

theorem lookup_congr {key other : Key} (found : key.same other = true)
    (entries : List (Key × Value)) : lookup key entries = lookup other entries := by
  induction entries with
  | nil => rfl
  | cons entry rest induction =>
      obtain ⟨stored, value⟩ := entry
      rw [lookup_cons, lookup_cons, Key.same_congr_right found, induction]

theorem exists_mem_of_lookup {key : Key} {entries : List (Key × Value)}
    {value : Value} (found : lookup key entries = some value) :
    ∃ entry ∈ entries, entry.1.same key = true ∧ entry.2 = value := by
  induction entries with
  | nil => cases found
  | cons entry rest induction =>
      obtain ⟨stored, kept⟩ := entry
      rw [lookup_cons] at found
      split at found
      · next same =>
          cases found
          exact ⟨_, List.mem_cons_self, same, rfl⟩
      · obtain ⟨entry, member, same, valueEq⟩ := induction found
        exact ⟨entry, List.mem_cons_of_mem _ member, same, valueEq⟩

theorem lookup_of_mem {key : Key} {entries : List (Key × Value)}
    {entry : Key × Value} (distinct : DistinctKeys entries)
    (member : entry ∈ entries) (same : entry.1.same key = true) :
    lookup key entries = some entry.2 := by
  induction entries with
  | nil => cases member
  | cons first rest induction =>
      obtain ⟨stored, kept⟩ := first
      obtain ⟨different, restDistinct⟩ := distinct
      rw [lookup_cons]
      rcases List.mem_cons.mp member with rfl | later
      · rw [if_pos same]
      · have other : stored.same key ≠ true := by
          intro storedSame
          have both := Key.same_trans storedSame (Key.same_symm same)
          rw [different entry later] at both
          cases both
        rw [if_neg other]
        exact induction restDistinct later

/-- The entries without the one that a key finds. -/
def without (key : Key) (entries : List (Key × Value)) : List (Key × Value) :=
  entries.eraseP fun entry => entry.1.same key

theorem without_cons (key stored : Key) (value : Value) (rest : List (Key × Value)) :
    without key ((stored, value) :: rest) =
      if stored.same key then rest else (stored, value) :: without key rest := by
  rw [without, List.eraseP_cons, Bool.cond_eq_ite]
  rfl

theorem lookup_without {key other : Key} (different : key.same other = false)
    (entries : List (Key × Value)) :
    lookup other (without key entries) = lookup other entries := by
  induction entries with
  | nil => rfl
  | cons entry rest induction =>
      obtain ⟨stored, value⟩ := entry
      rw [without_cons, lookup_cons]
      cases same : stored.same key with
      | true =>
          have otherStored : stored.same other ≠ true := by
            intro found
            rw [Key.same_trans (Key.same_symm same) found] at different
            cases different
          rw [if_pos rfl, if_neg otherStored]
      | false => rw [if_neg Bool.false_ne_true, lookup_cons, induction]

theorem perm_cons_without {key : Key} {entries : List (Key × Value)} {value : Value}
    (found : lookup key entries = some value) :
    ∃ entry, entry.1.same key = true ∧ entry.2 = value ∧
      (entry :: without key entries).Perm entries := by
  induction entries with
  | nil => cases found
  | cons first rest induction =>
      obtain ⟨stored, kept⟩ := first
      rw [lookup_cons] at found
      rw [without_cons]
      cases same : stored.same key with
      | true =>
          rw [if_pos same] at found
          exact ⟨(stored, kept), same, Option.some.inj found, .refl _⟩
      | false =>
          rw [if_neg (by simp [same])] at found
          obtain ⟨entry, entrySame, valueEq, permuted⟩ := induction found
          refine ⟨entry, entrySame, valueEq, ?_⟩
          rw [if_neg Bool.false_ne_true]
          exact (List.Perm.swap _ _ _).trans (permuted.cons (stored, kept))

/-- Two entries under the same key, with related values. -/
def Paired (related : Value → Value → Prop) (entry other : Key × Value) : Prop :=
  entry.1.same other.1 = true ∧ related entry.2 other.2

/-- If distinct keys all find an entry of a list no longer than theirs, then the
entries of the list are theirs, one by one, in another order. -/
theorem exists_paired_of_all_found (related : Value → Value → Prop)
    {left right : List (Key × Value)} (distinct : DistinctKeys left)
    (sameLength : left.length = right.length)
    (found : ∀ entry ∈ left, ∃ value,
      lookup entry.1 right = some value ∧ related entry.2 value) :
    ∃ reordered, reordered.Perm right ∧
      List.Forall₂ (Paired related) left reordered := by
  induction left generalizing right with
  | nil =>
      obtain rfl := List.length_eq_zero_iff.mp sameLength.symm
      exact ⟨[], .refl _, .nil⟩
  | cons first rest induction =>
      obtain ⟨different, restDistinct⟩ := distinct
      obtain ⟨value, firstFound, firstRelated⟩ := found first List.mem_cons_self
      obtain ⟨partner, same, rfl, permuted⟩ := perm_cons_without firstFound
      -- Without the entry that the first key finds, as many entries remain as keys,
      -- and the other keys find in them what they found before.
      have restLength : rest.length = (without first.1 right).length := by
        have lengths := permuted.length_eq
        rw [List.length_cons] at sameLength lengths
        omega
      have restFound : ∀ entry ∈ rest, ∃ value,
          lookup entry.1 (without first.1 right) = some value ∧
            related entry.2 value := by
        intro entry later
        rw [lookup_without (different entry later)]
        exact found entry (List.mem_cons_of_mem _ later)
      obtain ⟨reordered, restPermuted, each⟩ := induction restDistinct restLength restFound
      exact ⟨partner :: reordered, (restPermuted.cons partner).trans permuted,
        .cons ⟨Key.same_symm same, firstRelated⟩ each⟩

theorem exists_related_left {related : α → β → Prop} {items : List α} {others : List β}
    (each : List.Forall₂ related items others) {other : β} (member : other ∈ others) :
    ∃ item ∈ items, related item other := by
  induction each with
  | nil => cases member
  | cons head tail induction =>
      rcases List.mem_cons.mp member with rfl | later
      · exact ⟨_, List.mem_cons_self, head⟩
      · obtain ⟨item, itemMember, itemRelated⟩ := induction later
        exact ⟨item, List.mem_cons_of_mem _ itemMember, itemRelated⟩

/-- Distinct keys that all find an entry of a list no longer than theirs find all
of its entries. -/
theorem exists_of_all_found (related : Value → Value → Prop)
    {left right : List (Key × Value)} (distinct : DistinctKeys left)
    (sameLength : left.length = right.length)
    (found : ∀ entry ∈ left, ∃ value,
      lookup entry.1 right = some value ∧ related entry.2 value) :
    ∀ other ∈ right, ∃ entry ∈ left,
      entry.1.same other.1 = true ∧ related entry.2 other.2 := by
  intro other member
  obtain ⟨reordered, permuted, each⟩ :=
    exists_paired_of_all_found related distinct sameLength found
  exact exists_related_left each (permuted.mem_iff.mpr member)

end Entries

end Criteria
