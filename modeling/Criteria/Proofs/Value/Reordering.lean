import Criteria.Proofs.Value.Equality

/-!
# Reordered values

Two values that differ in the order in which the entries of their mappings are
written, at any depth, are equal to the same values, and the same values are
equal to them.  This does not follow from their being equal to each other, since
a value that holds something that is no number is not equal to itself.
-/

namespace Criteria

namespace Entries

theorem distinctKeys_iff {entries : List (Key × Value)} :
    DistinctKeys entries ↔
      (entries.map Prod.fst).Pairwise fun key other => key.same other = false := by
  induction entries with
  | nil => exact ⟨fun _ => .nil, fun _ => trivial⟩
  | cons entry rest induction =>
      rw [List.map_cons, List.pairwise_cons, List.forall_mem_map, ← induction]
      exact Iff.rfl

theorem DistinctKeys.perm {entries others : List (Key × Value)}
    (distinct : DistinctKeys entries) (permuted : entries.Perm others) :
    DistinctKeys others := by
  rw [distinctKeys_iff] at distinct ⊢
  refine (permuted.map Prod.fst).pairwise distinct ?_
  intro key other different
  cases same : other.same key with
  | false => rfl
  | true =>
      rw [Key.same_symm same] at different
      cases different

/-- What a key finds among distinct keys does not depend on their order. -/
theorem lookup_perm {entries others : List (Key × Value)}
    (distinct : DistinctKeys entries) (permuted : entries.Perm others) (key : Key) :
    lookup key entries = lookup key others := by
  cases found : lookup key entries with
  | some value =>
      obtain ⟨entry, member, same, rfl⟩ := exists_mem_of_lookup found
      exact (lookup_of_mem (distinct.perm permuted) (permuted.mem_iff.mp member) same).symm
  | none =>
      cases otherFound : lookup key others with
      | none => rfl
      | some value =>
          obtain ⟨entry, member, same, rfl⟩ := exists_mem_of_lookup otherFound
          rw [lookup_of_mem distinct (permuted.mem_iff.mpr member) same] at found
          cases found

end Entries

namespace Value

section Lists

variable {items others lasts : List α} {related : α → α → Prop}

theorem map_eq_of_forall₂ {function : α → β} (each : List.Forall₂ related items others)
    (same : ∀ {item other}, related item other → function item = function other) :
    items.map function = others.map function := by
  induction each with
  | nil => rfl
  | cons head tail induction =>
      rw [List.map_cons, List.map_cons, same head, induction]

theorem forall_mem_congr {test : α → Prop} (each : List.Forall₂ related items others)
    (agree : ∀ item ∈ items, ∀ other, related item other → (test item ↔ test other)) :
    (∀ item ∈ items, test item) ↔ ∀ other ∈ others, test other := by
  induction each with
  | nil => exact Iff.rfl
  | cons head tail induction =>
      rw [List.forall_mem_cons, List.forall_mem_cons, agree _ List.mem_cons_self _ head,
        induction fun item later => agree item (List.mem_cons_of_mem _ later)]

theorem forall₂_congr_left {test : α → α → Prop}
    (each : List.Forall₂ related items others)
    (agree : ∀ item ∈ items, ∀ other, related item other →
      ∀ last, test item last ↔ test other last) :
    List.Forall₂ test items lasts ↔ List.Forall₂ test others lasts := by
  induction each generalizing lasts with
  | nil => exact Iff.rfl
  | cons head tail induction =>
      cases lasts with
      | nil => exact ⟨nofun, nofun⟩
      | cons last lasts =>
          rw [List.forall₂_cons, List.forall₂_cons, agree _ List.mem_cons_self _ head,
            induction fun item later => agree item (List.mem_cons_of_mem _ later)]

theorem forall₂_congr_right {test : α → α → Prop}
    (each : List.Forall₂ related items others)
    (agree : ∀ item ∈ items, ∀ other, related item other →
      ∀ first, test first item ↔ test first other) :
    List.Forall₂ test lasts items ↔ List.Forall₂ test lasts others := by
  have flipped : List.Forall₂ (flip test) items lasts ↔
      List.Forall₂ (flip test) others lasts := forall₂_congr_left each agree
  exact ⟨fun first => (flipped.mp first.flip).flip,
    fun second => (flipped.mpr second.flip).flip⟩

end Lists

mutual

/-- A value in which entries of mappings, at any depth, may stand in another
order. -/
inductive Reordered : Value → Value → Prop where
  | same (value : Value) : Reordered value value
  | list {items others : List Value} :
      List.Forall₂ Reordered items others → Reordered (.list items) (.list others)
  | tuple {items others : List Value} :
      List.Forall₂ Reordered items others → Reordered (.tuple items) (.tuple others)
  | mapping {entries middle others : List (Key × Value)} :
      List.Forall₂ EntryReordered entries middle → middle.Perm others →
      Reordered (.mapping entries) (.mapping others)

/-- An entry whose value is reordered. -/
inductive EntryReordered : Key × Value → Key × Value → Prop where
  | entry (key : Key) {value changed : Value} :
      Reordered value changed → EntryReordered (key, value) (key, changed)

end

variable {value changed : Value}

section Layers

theorem Reordered.items? (reordered : value.Reordered changed) :
    (value.items? = none ∧ changed.items? = none) ∨
      ∃ items others, value.items? = some items ∧ changed.items? = some others ∧
        List.Forall₂ Reordered items others := by
  cases reordered with
  | list each | tuple each => exact .inr ⟨_, _, rfl, rfl, each⟩
  | mapping each permuted => exact .inl ⟨rfl, rfl⟩
  | same =>
      cases held : value.items? with
      | none => exact .inl ⟨rfl, rfl⟩
      | some items =>
          exact .inr ⟨items, items, rfl, rfl, List.forall₂_same.mpr fun item _ => .same item⟩

/-- The value has parts of its own. -/
def Structured : Value → Prop
  | .list _ | .tuple _ | .mapping _ => True
  | _ => False

theorem Reordered.eq_or_structured (reordered : value.Reordered changed) :
    value = changed ∨ value.Structured ∧ changed.Structured := by
  cases reordered with
  | same => exact .inl rfl
  | list each | tuple each => exact .inr ⟨trivial, trivial⟩
  | mapping each permuted => exact .inr ⟨trivial, trivial⟩

theorem EntryReordered.key_eq {entry other : Key × Value}
    (reordered : EntryReordered entry other) : entry.1 = other.1 := by
  cases reordered with
  | entry key valueReordered => rfl

theorem lookup_of_entriesReordered {entries others : List (Key × Value)}
    (each : List.Forall₂ EntryReordered entries others) (key : Key) :
    (Entries.lookup key entries = none ∧ Entries.lookup key others = none) ∨
      ∃ entry ∈ entries, ∃ changed, Entries.lookup key entries = some entry.2 ∧
        Entries.lookup key others = some changed ∧ entry.2.Reordered changed := by
  induction each with
  | nil => exact .inl ⟨rfl, rfl⟩
  | cons head tail induction =>
      cases head with
      | @entry stored value changed reordered =>
          rw [Entries.lookup_cons, Entries.lookup_cons]
          cases stored.same key with
          | true => exact .inr ⟨_, List.mem_cons_self, changed, rfl, rfl, reordered⟩
          | false =>
              rcases induction with absent | ⟨entry, member, other, found⟩
              · exact .inl absent
              · exact .inr ⟨entry, List.mem_cons_of_mem _ member, other, found⟩

end Layers

section Equality

theorem alike_of_items_right {other : Value} {items : List Value}
    (held : value.items? = some items) :
    other.equal value = true ↔ ∃ firsts, other.items? = some firsts ∧
      List.Forall₂ (fun first item => first.equal item = true) firsts items := by
  constructor
  · intro equal
    cases equal_iff_alike.mp equal with
    | collection otherHeld valueHeld each =>
        rw [valueHeld] at held
        cases held
        exact ⟨_, otherHeld, each⟩
    | _ => cases held
  · rintro ⟨firsts, otherHeld, each⟩
    exact (equal_of_items otherHeld value).mpr ⟨items, held, each⟩

theorem Reordered.equal_left (reordered : value.Reordered changed) (other : Value) :
    value.equal other = changed.equal other := by
  induction value using Value.induction generalizing changed other with
  | atom value noItems noEntries =>
      cases reordered with
      | same => rfl
      | list each | tuple each => cases noItems
      | mapping each permuted => cases noEntries
  | collection value items held itemsEqual =>
      rcases reordered.items? with ⟨none, -⟩ | ⟨_, others, valueHeld, otherHeld, each⟩
      · rw [none] at held
        cases held
      · obtain rfl := Option.some.inj (held.symm.trans valueHeld)
        rw [Bool.eq_iff_iff, equal_of_items held, equal_of_items otherHeld]
        refine exists_congr fun lasts => and_congr_right fun _ => ?_
        refine forall₂_congr_left each fun item member changed itemReordered last => ?_
        rw [itemsEqual item member itemReordered last]
  | mapping entries entriesEqual =>
      cases reordered with
      | same => rfl
      | @mapping _ middle others each permuted =>
          cases other with
          | mapping lasts =>
              rw [Bool.eq_iff_iff, equal, equal, Bool.and_eq_true, Bool.and_eq_true,
                beq_iff_eq, beq_iff_eq, entriesEqual_iff, entriesEqual_iff,
                each.length_eq, permuted.length_eq]
              refine and_congr_right fun _ => ?_
              rw [forall_mem_congr each]
              · exact ⟨fun all entry member => all entry (permuted.mem_iff.mpr member),
                  fun all entry member => all entry (permuted.mem_iff.mp member)⟩
              · rintro _ member _ ⟨key, entryReordered⟩
                simp only [entriesEqual _ member entryReordered]
          | _ => rfl

theorem Reordered.equal_right (reordered : value.Reordered changed)
    (wellFormed : value.WellFormed) (other : Value) :
    other.equal value = other.equal changed := by
  induction value using Value.induction generalizing changed other with
  | atom value noItems noEntries =>
      cases reordered with
      | same => rfl
      | list each | tuple each => cases noItems
      | mapping each permuted => cases noEntries
  | collection value items held itemsEqual =>
      rcases reordered.items? with ⟨none, -⟩ | ⟨_, others, valueHeld, otherHeld, each⟩
      · rw [none] at held
        cases held
      · obtain rfl := Option.some.inj (held.symm.trans valueHeld)
        rw [Bool.eq_iff_iff, alike_of_items_right held, alike_of_items_right otherHeld]
        refine exists_congr fun firsts => and_congr_right fun _ => ?_
        refine forall₂_congr_right each fun item member changed itemReordered first => ?_
        rw [itemsEqual item member itemReordered
          (wellFormed_of_mem_items wellFormed held member) first]
  | mapping entries entriesEqual =>
      cases reordered with
      | same => rfl
      | @mapping _ middle others each permuted =>
          cases other with
          | mapping firsts =>
              obtain ⟨distinct, entriesWellFormed⟩ := wellFormed
              have middleDistinct : Entries.DistinctKeys middle := by
                rw [Entries.distinctKeys_iff, ← map_eq_of_forall₂ each EntryReordered.key_eq,
                  ← Entries.distinctKeys_iff]
                exact distinct
              rw [Bool.eq_iff_iff, equal, equal, Bool.and_eq_true, Bool.and_eq_true,
                beq_iff_eq, beq_iff_eq, entriesEqual_iff, entriesEqual_iff,
                each.length_eq, permuted.length_eq]
              refine and_congr_right fun _ => forall₂_congr fun first _ => ?_
              rw [← Entries.lookup_perm middleDistinct permuted first.1]
              rcases lookup_of_entriesReordered each first.1 with
                ⟨absent, otherAbsent⟩ | ⟨entry, member, other, found, otherFound, same⟩
              · rw [absent, otherAbsent]
              · have entryEqual := entriesEqual entry member same
                  (wellFormed_of_mem_entries entriesWellFormed member) first.2
                rw [found, otherFound]
                simp [entryEqual]
          | _ => rfl

end Equality

end Value

end Criteria
