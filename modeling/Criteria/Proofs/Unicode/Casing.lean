import Mathlib.Data.List.Forall2
import Criteria.Unicode.Blank
import Criteria.Unicode.Casing

/-!
# Letters in two cases

A blank has no other letter case.  Texts that differ in letter case only still do so when
they are stripped of the blanks around them, and have one upper case.
-/

namespace Criteria

/-- Two characters are one letter, up to letter case. -/
def UpperAlike (char other : Char) : Prop :=
  upperText char = upperText other

section Blanks

variable {char other : Char}

/-- The letters of a run, moved by a shift, are outside of a range. -/
def CaseRun.Avoids (run : CaseRun) (shift : Int) (range : Nat × Nat) : Prop :=
  (run.last : Int) + shift < range.1 ∨ (range.2 : Int) < run.first + shift

instance (run : CaseRun) (shift : Int) (range : Nat × Nat) :
    Decidable (run.Avoids shift range) :=
  inferInstanceAs (Decidable (_ ∨ _))

theorem blankRanges_pos : ∀ range ∈ blankRanges, 0 < range.1 := by
  decide

theorem upperRuns_avoid : ∀ run ∈ upperRuns, ∀ range ∈ blankRanges,
    run.Avoids 0 range ∧ run.Avoids run.shift range := by
  decide +kernel

theorem longUpper_avoids : ∀ entry ∈ longUpper, 1 < entry.2.length ∧
    ∀ range ∈ blankRanges, entry.1 < range.1 ∨ range.2 < entry.1 := by
  decide +kernel

theorem isBlank_iff :
    isBlank char = true ↔ ∃ range ∈ blankRanges, range.1 ≤ char.toNat ∧ char.toNat ≤ range.2 := by
  simp [isBlank, inRanges]

theorem toNat_ofNat_cases (code : Nat) :
    (Char.ofNat code).toNat = code ∨ (Char.ofNat code).toNat = 0 := by
  by_cases valid : code.isValidChar
  · rw [Char.ofNat, dif_pos valid]
    exact .inl rfl
  · rw [Char.ofNat, dif_neg valid]
    exact .inr rfl

theorem mem_of_find?_contains {code : Nat} {run : CaseRun}
    (found : upperRuns.find? (·.contains code) = some run) :
    run ∈ upperRuns ∧ run.first ≤ code ∧ code ≤ run.last := by
  have contained := List.find?_some found
  simp only [CaseRun.contains, Bool.and_eq_true, decide_eq_true_eq] at contained
  exact ⟨List.mem_of_find?_eq_some found, contained.1⟩

theorem upperText_of_isBlank (blank : isBlank char = true) :
    upperText char = String.singleton char := by
  obtain ⟨range, member, low, high⟩ := isBlank_iff.mp blank
  have notLong : longUpper.find? (·.1 = char.toNat) = none := by
    rw [List.find?_eq_none]
    intro entry entryMember same
    have apart := (longUpper_avoids entry entryMember).2 range member
    simp only [decide_eq_true_eq] at same
    omega
  have unshifted : upperRuns.find? (·.contains char.toNat) = none := by
    rw [Option.eq_none_iff_forall_ne_some]
    intro run found
    obtain ⟨runMember, first, last⟩ := mem_of_find?_contains found
    have apart := (upperRuns_avoid run runMember range member).1
    rw [CaseRun.Avoids] at apart
    omega
  rw [upperText, notLong, shiftedCode, unshifted]
  exact congrArg String.singleton char.ofNat_toNat

theorem isBlank_of_upperText_eq (blank : isBlank char = true)
    (upper : upperText other = String.singleton char) : isBlank other = true := by
  obtain ⟨range, member, low, high⟩ := isBlank_iff.mp blank
  rw [upperText] at upper
  split at upper
  · next found =>
      have long := (longUpper_avoids _ (List.mem_of_find?_eq_some found)).1
      rw [upper] at long
      simp at long
  · have shifted : Char.ofNat (shiftedCode upperRuns other.toNat) = char :=
      List.singleton_inj.mp (by simpa using congrArg String.toList upper)
    rw [shiftedCode] at shifted
    split at shifted
    · next run found =>
        obtain ⟨runMember, first, last⟩ := mem_of_find?_contains found
        have apart := (upperRuns_avoid run runMember range member).2
        have positive := blankRanges_pos range member
        have code := toNat_ofNat_cases ((other.toNat : Int) + run.shift).toNat
        rw [shifted] at code
        rw [CaseRun.Avoids] at apart
        omega
    · rw [Char.ofNat_toNat] at shifted
      rwa [shifted]

/-- A blank is no other character in another letter case. -/
theorem isBlank_eq_of_upperAlike (alike : UpperAlike char other) :
    isBlank char = isBlank other := by
  rw [Bool.eq_iff_iff]
  constructor
  · intro blank
    exact isBlank_of_upperText_eq blank (alike.symm.trans (upperText_of_isBlank blank))
  · intro blank
    exact isBlank_of_upperText_eq blank (alike.trans (upperText_of_isBlank blank))

end Blanks

section Texts

variable {chars others : List Char}

theorem forall₂_dropWhile_isBlank (alike : List.Forall₂ UpperAlike chars others) :
    List.Forall₂ UpperAlike (chars.dropWhile isBlank) (others.dropWhile isBlank) := by
  induction alike with
  | nil => exact .nil
  | @cons char other chars others first rest induction =>
      rw [List.dropWhile_cons, List.dropWhile_cons, isBlank_eq_of_upperAlike first]
      split
      · exact induction
      · exact .cons first rest

theorem forall₂_stripBlanks (alike : List.Forall₂ UpperAlike chars others) :
    List.Forall₂ UpperAlike (stripBlanks chars) (stripBlanks others) := by
  rw [stripBlanks, stripBlanks, List.forall₂_reverse_iff]
  exact forall₂_dropWhile_isBlank
    (List.forall₂_reverse_iff.mpr (forall₂_dropWhile_isBlank alike))

theorem upperCase_eq_of_forall₂ (alike : List.Forall₂ UpperAlike chars others) :
    upperCase (String.ofList chars) = upperCase (String.ofList others) := by
  have upper : chars.map upperText = others.map upperText := by
    induction alike with
    | nil => rfl
    | cons first _ induction => rw [List.map_cons, List.map_cons, first, induction]
  rw [upperCase, upperCase, String.toList_ofList, String.toList_ofList, upper]

end Texts

end Criteria
