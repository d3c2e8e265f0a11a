import Criteria.Proofs.Value.Equality
import Criteria.Value.Path

/-!
# Paths in equal values

A path leads somewhere in both of two equal values or in none, and where it
leads the values are equal again.
-/

namespace Criteria

namespace Path

/-- Segments lead nowhere in both values, or to equal values. -/
def Agree (segments : List String) (left right : Value) : Prop :=
  (follow segments left = none ∧ follow segments right = none) ∨
    ∃ value other, follow segments left = some value ∧
      follow segments right = some other ∧ value.equal other = true

theorem wellFormed_of_follow {segments : List String} {document value : Value}
    (wellFormed : document.WellFormed) (followed : follow segments document = some value) :
    value.WellFormed := by
  induction segments generalizing document with
  | nil =>
      cases followed
      exact wellFormed
  | cons segment segments induction =>
      cases document with
      | mapping entries =>
          rw [follow] at followed
          cases found : Entries.lookup (.text segment) entries with
          | none => simp [found] at followed
          | some inner =>
              rw [found] at followed
              exact induction (Value.wellFormed_of_lookup wellFormed found) followed
      | _ => cases followed

/-- What a key finds in equal mappings. -/
theorem lookup_of_equal {entries others : List (Key × Value)}
    (wellFormed : (Value.mapping entries).WellFormed)
    (equal : (Value.mapping entries).equal (.mapping others) = true) (key : Key) :
    (Entries.lookup key entries = none ∧ Entries.lookup key others = none) ∨
      ∃ value other, Entries.lookup key entries = some value ∧
        Entries.lookup key others = some other ∧ value.equal other = true := by
  have forward {entries others : List (Key × Value)} {value : Value}
      (equal : (Value.mapping entries).equal (.mapping others) = true)
      (found : Entries.lookup key entries = some value) :
      ∃ other, Entries.lookup key others = some other ∧ value.equal other = true := by
    cases Value.equal_iff_alike.mp equal with
    | collection held => cases held
    | mapping sameLength allFound =>
        obtain ⟨entry, member, same, rfl⟩ := Entries.exists_mem_of_lookup found
        obtain ⟨other, otherFound, otherEqual⟩ := allFound entry member
        rw [Entries.lookup_congr same] at otherFound
        exact ⟨other, otherFound, otherEqual⟩
  cases found : Entries.lookup key entries with
  | some value =>
      obtain ⟨other, otherFound, otherEqual⟩ := forward equal found
      exact .inr ⟨value, other, rfl, otherFound, otherEqual⟩
  | none =>
      cases otherFound : Entries.lookup key others with
      | none => exact .inl ⟨rfl, rfl⟩
      | some other =>
          -- Equality from the left says nothing of this key, but it is symmetric.
          obtain ⟨value, back, -⟩ :=
            forward (Value.equal_symm wellFormed equal) otherFound
          rw [found] at back
          cases back

theorem agree_of_equal {left right : Value} (segments : List String)
    (wellFormed : left.WellFormed) (equal : left.equal right = true) :
    Agree segments left right := by
  induction segments generalizing left right with
  | nil => exact .inr ⟨left, right, rfl, rfl, equal⟩
  | cons segment segments induction =>
      cases Value.equal_iff_alike.mp equal with
      | collection held otherHeld each =>
          have nowhere {value : Value} {items : List Value}
              (held : value.items? = some items) :
              follow (segment :: segments) value = none := by
            cases value <;> first | rfl | cases held
          exact .inl ⟨nowhere held, nowhere otherHeld⟩
      | mapping sameLength allFound =>
          unfold Agree
          rw [follow, follow]
          rcases lookup_of_equal wellFormed equal (.text segment) with
            ⟨found, otherFound⟩ | ⟨value, other, found, otherFound, valueEqual⟩
          · rw [found, otherFound]
            exact .inl ⟨rfl, rfl⟩
          · rw [found, otherFound]
            exact induction (Value.wellFormed_of_lookup wellFormed found) valueEqual
      | _ => exact .inl ⟨rfl, rfl⟩

end Path

end Criteria
