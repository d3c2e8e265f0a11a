/-!
# Numbers

The numbers of a document: integers of any size and the numbers of the 64-bit
binary format.  A finite binary number is counted in steps of `2 ^ (-1074)`,
the least positive number of the format.  Every number but the undefined one
therefore has a place on one line of integers with two ends, and comparing two
numbers is comparing their places.
-/

namespace Criteria

/-- A number of the 64-bit binary format, finite ones counted in steps of
`2 ^ (-1074)`.  The two zeros are different data at the same place. -/
inductive Binary64 where
  | nan
  | infinite (negative : Bool)
  | finite (negative : Bool) (steps : Nat)
  deriving DecidableEq, Inhabited

/-- A place on the line of numbers, counted in steps of `2 ^ (-1074)`. -/
inductive Place where
  | lowest
  | steps (count : Int)
  | highest
  deriving DecidableEq, Inhabited

namespace Place

def less : Place → Place → Bool
  | .lowest, .lowest => false
  | .lowest, _ => true
  | .steps _, .lowest => false
  | .steps left, .steps right => decide (left < right)
  | .steps _, .highest => true
  | .highest, _ => false

end Place

namespace Binary64

/-- How many steps make one. -/
def stepsPerUnit : Nat := Nat.pow 2 1074

/-- The counts of steps from here on belong to no finite number. -/
def stepLimit : Nat := Nat.pow 2 2098

def signed (negative : Bool) (count : Nat) : Int :=
  if negative then -(count : Int) else count

def place? : Binary64 → Option Place
  | .nan => none
  | .infinite true => some .lowest
  | .infinite false => some .highest
  | .finite negative steps => some (.steps (signed negative steps))

def isZero : Binary64 → Bool
  | .finite _ 0 => true
  | _ => false

end Binary64

/-- A number of a document. -/
inductive Number where
  | integer (value : Int)
  | binary (value : Binary64)
  deriving DecidableEq, Inhabited

namespace Number

/-- The place of a number; the undefined number has none. -/
def place? : Number → Option Place
  | .integer value => some (.steps (value * Binary64.stepsPerUnit))
  | .binary value => value.place?

/-- The relation of the places; it never holds of the undefined number. -/
def related (relation : Place → Place → Bool) (left right : Number) : Bool :=
  match left.place?, right.place? with
  | some leftPlace, some rightPlace => relation leftPlace rightPlace
  | _, _ => false

def equal : Number → Number → Bool :=
  related fun left right => decide (left = right)

def less : Number → Number → Bool :=
  related Place.less

def lessOrEqual : Number → Number → Bool :=
  related fun left right => !right.less left

end Number

end Criteria
