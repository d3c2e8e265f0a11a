import Criteria.Unicode.Range

/-!
# Blank characters

White space in the wide sense: the Unicode separators and the control
characters that part lines, fields and records.
-/

namespace Criteria

/-- The ranges of blank characters. -/
def blankRanges : List (Nat × Nat) :=
  [ (0x9, 0xD), (0x1C, 0x20), (0x85, 0x85), (0xA0, 0xA0), (0x1680, 0x1680), (0x2000, 0x200A),
    (0x2028, 0x2029), (0x202F, 0x202F), (0x205F, 0x205F), (0x3000, 0x3000) ]

def isBlank (char : Char) : Bool :=
  inRanges char blankRanges

/-- A text without the blank characters at its ends. -/
def stripBlanks (chars : List Char) : List Char :=
  ((chars.dropWhile isBlank).reverse.dropWhile isBlank).reverse

end Criteria
