import Mathlib.Data.List.Basic
import Mathlib.Data.List.TakeWhile
import Criteria.Unicode.Blank

/-!
# Surrounding blanks

Blanks before and after a text make no difference once the text is stripped of them,
and a text that neither begins nor ends with a blank is left as it is.
-/

namespace Criteria

/-- The text neither begins nor ends with a blank. -/
structure Solid (chars : List Char) : Prop where
  first : ∀ char ∈ chars.head?, isBlank char = false
  last : ∀ char ∈ chars.getLast?, isBlank char = false

theorem isBlank_of_isDigit {char : Char} (digit : char.isDigit = true) :
    isBlank char = false := by
  have bounds : 48 ≤ char.toNat ∧ char.toNat ≤ 57 := by
    simpa [Char.isDigit, UInt32.le_iff_toNat_le] using digit
  simp only [isBlank, inRanges, blankRanges, List.any_cons, List.any_nil, Bool.or_false,
    Bool.or_eq_false_iff, Bool.and_eq_false_iff, decide_eq_false_iff_not]
  omega

theorem Solid.of_all {chars : List Char} (all : ∀ char ∈ chars, isBlank char = false) :
    Solid chars where
  first := fun char member => all char (List.mem_of_mem_head? member)
  last := fun char member => all char (List.mem_of_mem_getLast? member)

/-- Two solid texts stay solid with whatever stands between them. -/
theorem Solid.separated {front chars : List Char} (separator : Char)
    (frontSolid : Solid front) (solid : Solid chars)
    (frontNonempty : front ≠ []) (nonempty : chars ≠ []) :
    Solid (front ++ separator :: chars) where
  first := by
    rw [List.head?_append_of_ne_nil _ frontNonempty]
    exact frontSolid.first
  last := by
    rw [List.getLast?_append_of_ne_nil _ (List.cons_ne_nil _ _),
      List.getLast?_cons_of_ne_nil nonempty]
    exact solid.last

section Blanks

variable {before chars after : List Char}

theorem dropWhile_of_head {chars : List Char}
    (first : ∀ char ∈ chars.head?, isBlank char = false) : chars.dropWhile isBlank = chars := by
  cases chars with
  | nil => rfl
  | cons char chars => exact List.dropWhile_cons_of_neg (by simp [first char rfl])

theorem Solid.stripBlanks_eq (solid : Solid chars) : stripBlanks chars = chars := by
  have last : ∀ char ∈ chars.reverse.head?, isBlank char = false := by
    rw [List.head?_reverse]
    exact solid.last
  rw [stripBlanks, dropWhile_of_head solid.first, dropWhile_of_head last, List.reverse_reverse]

/-- Nothing is left of blanks. -/
theorem stripBlanks_of_blank (blank : ∀ char ∈ chars, isBlank char = true) :
    stripBlanks chars = [] := by
  rw [stripBlanks, List.dropWhile_eq_nil_iff.mpr blank]
  rfl

theorem stripBlanks_surrounded (beforeBlank : ∀ char ∈ before, isBlank char = true)
    (afterBlank : ∀ char ∈ after, isBlank char = true) :
    stripBlanks (before ++ (chars ++ after)) = stripBlanks chars := by
  have reversedBlank : ∀ char ∈ after.reverse, isBlank char = true :=
    fun char member => afterBlank char (List.mem_reverse.mp member)
  by_cases allBlank : ∀ char ∈ chars, isBlank char = true
  · have everywhere : ∀ char ∈ before ++ (chars ++ after), isBlank char = true := by
      simp only [List.mem_append]
      rintro char (member | member | member)
      · exact beforeBlank char member
      · exact allBlank char member
      · exact afterBlank char member
    rw [stripBlanks_of_blank everywhere, stripBlanks_of_blank allBlank]
  · have something : (chars.dropWhile isBlank).isEmpty = false := by
      rw [List.isEmpty_eq_false_iff, ne_eq, List.dropWhile_eq_nil_iff]
      exact allBlank
    rw [stripBlanks, List.dropWhile_append_of_pos beforeBlank, List.dropWhile_append, something,
      if_neg Bool.false_ne_true, List.reverse_append,
      List.dropWhile_append_of_pos reversedBlank]
    rfl

end Blanks

/-- A text between blanks. -/
def Surrounded (inner written : String) : Prop :=
  ∃ before after : List Char, (∀ char ∈ before, isBlank char = true) ∧
    (∀ char ∈ after, isBlank char = true) ∧ written.toList = before ++ (inner.toList ++ after)

theorem surrounded_self (inner : String) : Surrounded inner inner :=
  ⟨[], [], nofun, nofun, by simp⟩

theorem Surrounded.stripBlanks_eq {inner written : String}
    (surrounded : Surrounded inner written) :
    stripBlanks written.toList = stripBlanks inner.toList := by
  obtain ⟨before, after, beforeBlank, afterBlank, written_eq⟩ := surrounded
  rw [written_eq]
  exact stripBlanks_surrounded beforeBlank afterBlank

end Criteria
