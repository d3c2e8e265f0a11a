import Criteria.Unicode.Blank
import Criteria.Unicode.Digit

/-!
# Whole numbers in texts

What may stand around the digits of a whole number and between them: space, a sign, and
underscores.
-/

namespace Criteria

/-- White space around a number: blanks other than the separators of files,
groups, records and units. -/
def isOuterSpace (char : Char) : Bool :=
  isBlank char && !(28 ≤ char.toNat && char.toNat ≤ 31)

def trimOuterSpace (chars : List Char) : List Char :=
  ((chars.dropWhile isOuterSpace).reverse.dropWhile isOuterSpace).reverse

/-- Two underscores stand side by side. -/
def hasDoubleUnderscore : List Char → Bool
  | '_' :: '_' :: _ => true
  | _ :: rest => hasDoubleUnderscore rest
  | [] => false

/-- Leaves single underscores inside of a number out. -/
def dropUnderscores (chars : List Char) : List Char :=
  if chars.head? = some '_' || chars.getLast? = some '_' || hasDoubleUnderscore chars then chars
  else chars.filter (· ≠ '_')

/-- How many digits a number may have that is to be read. -/
def digitLimit : Nat := 4300

/-- The value of a decimal digit; the digits of a script follow one another from zero on. -/
def decimalValue? (char : Char) : Option Nat :=
  (decimalDigitRanges.find? fun range => range.1 ≤ char.toNat && char.toNat ≤ range.2).map
    fun range => (char.toNat - range.1) % 10

/-- The whole number that a text writes in digits of any script, with room for space around
it, a sign, and underscores between the digits. -/
def wholeNumber? (chars : List Char) : Option Int := do
  let (negative, digits) := match trimOuterSpace chars with
    | '-' :: rest => (true, rest)
    | '+' :: rest => (false, rest)
    | rest => (false, rest)
  let values ← (dropUnderscores digits).mapM decimalValue?
  let value : Nat := values.foldl (fun value digit => value * 10 + digit) 0
  if values.isEmpty || digitLimit < values.length then none
  else if negative then return -(value : Int)
  else return value

end Criteria
