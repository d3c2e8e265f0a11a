import Criteria.Unicode.Blank
import Criteria.Unicode.Casing
import Criteria.Unicode.Digit
import Criteria.Unicode.Word

/-!
# Character sets

The sets of characters that one place of a pattern accepts.  Characters are
compared by their code points; where case is ignored, a character is accepted
with all the characters that count as the same letter.
-/

namespace Criteria.Pattern

/-- How a part of a pattern is read; parts can have modes of their own. -/
structure Modes where
  ignoreCase : Bool
  multiline : Bool
  dotAll : Bool
  verbose : Bool
  ascii : Bool
  deriving DecidableEq, Inhabited

namespace Modes

def none : Modes := ⟨false, false, false, false, false⟩

end Modes

inductive Category where
  | digit
  | space
  | word
  deriving DecidableEq

namespace Category

/-- Membership, by default in the sense of all scripts. -/
def contains (category : Category) (ascii : Bool) (char : Char) : Bool :=
  if ascii && 128 ≤ char.toNat then false
  else
    match category with
    | .digit => isDecimalDigit char
    | .space => if ascii then Char.isWhitespace char || char.toNat = 11 || char.toNat = 12
        else isBlank char
    | .word => isWordCharacter char

end Category

inductive SetItem where
  | literal (code : Nat)
  | range (low high : Nat)
  | category (kind : Category) (negated : Bool)
  deriving DecidableEq

/-- The lower case of a code point under the given modes. -/
def lowerUnder (ascii : Bool) (code : Nat) : Nat :=
  if ascii then if 65 ≤ code ∧ code ≤ 90 then code + 32 else code else lowerCode code

/-- The code points that are accepted together with a given one. -/
def variantsUnder (ascii : Bool) (code : Nat) : List Nat :=
  if ascii then
    let lower := lowerUnder true code
    if 97 ≤ lower ∧ lower ≤ 122 then [lower, lower - 32] else [code]
  else caseVariants code

namespace SetItem

def contains (item : SetItem) (modes : Modes) (char : Char) : Bool :=
  match item with
  | .literal code =>
      if modes.ignoreCase then (variantsUnder modes.ascii char.toNat).contains code
      else char.toNat = code
  | .range low high =>
      if modes.ignoreCase then
        (variantsUnder modes.ascii char.toNat).any fun code => low ≤ code && code ≤ high
      else low ≤ char.toNat && char.toNat ≤ high
  | .category kind negated => kind.contains modes.ascii char != negated

end SetItem

/-- A set of characters, or the complement of one. -/
structure CharacterSet where
  negated : Bool
  items : List SetItem
  modes : Modes

namespace CharacterSet

def contains (set : CharacterSet) (char : Char) : Bool :=
  (set.items.any fun item => item.contains set.modes char) != set.negated

/-- Every character, or every character but the end of a line. -/
def any (modes : Modes) : CharacterSet :=
  if modes.dotAll then ⟨true, [], modes⟩ else ⟨true, [.literal 10], modes⟩

end CharacterSet

end Criteria.Pattern
