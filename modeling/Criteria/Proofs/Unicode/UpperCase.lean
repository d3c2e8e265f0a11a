import Mathlib.Data.Nat.Bitwise
import Criteria.Proofs.Unicode.Casing

/-!
# Upper case is final

The upper case of a text has no other upper case: no letter that the tables lead to is one
that they lead from.  Both sets of letters are kept as the bits of a number.
-/

namespace Criteria

/-- Code points as the bits of a number. -/
def codeBits (codes : List Nat) : Nat :=
  codes.foldr (fun code bits => 1 <<< code ||| bits) 0

theorem testBit_codeBits {codes : List Nat} {code : Nat} (member : code ∈ codes) :
    (codeBits codes).testBit code = true := by
  induction codes with
  | nil => cases member
  | cons first rest induction =>
      change (1 <<< first ||| codeBits rest).testBit code = true
      rw [Nat.testBit_or, Bool.or_eq_true, Nat.one_shiftLeft]
      rcases List.mem_cons.mp member with rfl | later
      · exact .inl Nat.testBit_two_pow_self
      · exact .inr (induction later)

namespace CaseRun

def codes (run : CaseRun) : List Nat :=
  List.range' run.first ((run.last - run.first) / run.stride + 1) run.stride

/-- The code point that a run gives for one of its own. -/
def target (run : CaseRun) (code : Nat) : Nat :=
  ((code : Int) + run.shift).toNat

theorem mem_codes_of_contains {run : CaseRun} {code : Nat}
    (contained : run.contains code = true) : code ∈ run.codes := by
  simp only [contains, Bool.and_eq_true, decide_eq_true_eq] at contained
  obtain ⟨⟨first, last⟩, steps⟩ := contained
  have exact : run.stride * ((code - run.first) / run.stride) = code - run.first :=
    Nat.mul_div_cancel' (Nat.dvd_of_mod_eq_zero steps)
  refine List.mem_range'.mpr ⟨(code - run.first) / run.stride, ?_, ?_⟩
  · exact Nat.lt_succ_of_le (Nat.div_le_div_right (Nat.sub_le_sub_right last _))
  · rw [exact]
    omega

end CaseRun

/-- The bits of what is listed for each of several items. -/
def unionBits (codes : α → List Nat) (items : List α) : Nat :=
  items.foldr (fun item bits => codeBits (codes item) ||| bits) 0

theorem testBit_unionBits {codes : α → List Nat} {items : List α} {item : α} {code : Nat}
    (listed : item ∈ items) (member : code ∈ codes item) :
    (unionBits codes items).testBit code = true := by
  induction items with
  | nil => cases listed
  | cons first rest induction =>
      change (codeBits (codes first) ||| unionBits codes rest).testBit code = true
      rw [Nat.testBit_or, Bool.or_eq_true]
      rcases List.mem_cons.mp listed with rfl | later
      · exact .inl (testBit_codeBits member)
      · exact .inr (induction later)

/-- The code points that the tables lead from. -/
def lowerBits : Nat :=
  unionBits CaseRun.codes upperRuns ||| codeBits (longUpper.map Prod.fst)

/-- The code points that the tables lead to. -/
def upperBits : Nat :=
  unionBits (fun run => run.codes.map run.target) upperRuns |||
    unionBits (fun entry => entry.2.toList.map Char.toNat) longUpper

theorem lowerBits_and_upperBits : lowerBits &&& upperBits = 0 := by
  decide +kernel

theorem not_lower_of_upper {code : Nat} (upper : upperBits.testBit code = true) :
    ¬ lowerBits.testBit code = true := by
  intro lower
  have both : (lowerBits &&& upperBits).testBit code = true := by
    rw [Nat.testBit_and, lower, upper]
    rfl
  rw [lowerBits_and_upperBits, Nat.zero_testBit] at both
  cases both

/-- A character that the tables lead to is its own upper case. -/
theorem upperText_of_upper {char : Char} (upper : upperBits.testBit char.toNat = true) :
    upperText char = String.singleton char := by
  have notLower := not_lower_of_upper upper
  rw [lowerBits, Nat.testBit_or, Bool.or_eq_true, not_or] at notLower
  have notLong : longUpper.find? (·.1 = char.toNat) = none := by
    rw [List.find?_eq_none]
    intro entry member same
    have code : char.toNat ∈ longUpper.map Prod.fst :=
      List.mem_map.mpr ⟨entry, member, by simpa using same⟩
    exact notLower.2 (testBit_codeBits code)
  have unshifted : upperRuns.find? (·.contains char.toNat) = none := by
    rw [List.find?_eq_none]
    intro run member contained
    exact notLower.1 (testBit_unionBits member (CaseRun.mem_codes_of_contains contained))
  rw [upperText, notLong, shiftedCode, unshifted]
  exact congrArg String.singleton char.ofNat_toNat

theorem upperText_of_mem_upperText {char letter : Char}
    (member : letter ∈ (upperText char).toList) :
    upperText letter = String.singleton letter := by
  rw [upperText] at member
  split at member
  · next found =>
      have listed := List.mem_of_find?_eq_some found
      apply upperText_of_upper
      rw [upperBits, Nat.testBit_or, Bool.or_eq_true]
      exact .inr (testBit_unionBits listed (List.mem_map_of_mem member))
  · next notLong =>
      have given : letter = Char.ofNat (shiftedCode upperRuns char.toNat) := by
        simpa using member
      rw [shiftedCode] at given
      split at given
      · next run found =>
          have listed := List.mem_of_find?_eq_some found
          have contained := List.find?_some found
          have code := CaseRun.mem_codes_of_contains contained
          rcases toNat_ofNat_cases (run.target char.toNat) with reached | zero
          · rw [CaseRun.target, ← given] at reached
            apply upperText_of_upper
            rw [upperBits, Nat.testBit_or, Bool.or_eq_true, reached]
            exact .inl (testBit_unionBits listed (List.mem_map_of_mem code))
          · -- No run leads to a number that is no character, which would count as 0.
            rw [CaseRun.target, ← given] at zero
            rw [← letter.ofNat_toNat, zero]
            rfl
      · next unshifted =>
          rw [given, Char.ofNat_toNat, upperText, notLong, shiftedCode, unshifted]
          exact congrArg String.singleton char.ofNat_toNat

/-- A text in upper case stays as it is. -/
theorem upperCase_upperCase (text : String) : upperCase (upperCase text) = upperCase text := by
  have letters : ∀ letter ∈ (upperCase text).toList,
      upperText letter = String.singleton letter := by
    intro letter member
    rw [upperCase, String.toList_join, List.mem_flatMap] at member
    obtain ⟨part, partMember, member⟩ := member
    obtain ⟨char, -, rfl⟩ := List.mem_map.mp partMember
    exact upperText_of_mem_upperText member
  generalize upperCase text = upper at letters ⊢
  rw [upperCase, List.map_congr_left letters, ← String.toList_inj, String.toList_join,
    List.flatMap_map]
  simp

end Criteria
