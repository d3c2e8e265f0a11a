import Criteria.Calendar.DateTime
import Criteria.Number.Binary64

/-!
# Mapping keys

The data under which a mapping keeps its values.  A key is found again under
every key that is the same datum: numbers are the same if they are equal,
whatever their format, and truth values count as the numbers one and zero.
-/

namespace Criteria

inductive Key where
  | null
  | boolean (value : Bool)
  | number (value : Number)
  | text (value : String)
  | date (value : Date)
  | dateTime (value : DateTime)
  | tuple (items : List Key)
  deriving Inhabited

namespace Key

/-- The number that a key counts as. -/
def number? : Key → Option Number
  | .boolean value => some (.integer (if value then 1 else 0))
  | .number value => some value
  | _ => none

mutual

/-- Whether two keys find the same entry.  Keys are compared as data: the undefined number
is found under no key, although it might be under the very object that it was written as;
the identity of objects is not told apart here. -/
def same (left right : Key) : Bool :=
  match left with
  | .null =>
      match right with
      | .null => true
      | _ => false
  | .boolean value =>
      match right.number? with
      | some other => Number.equal (.integer (if value then 1 else 0)) other
      | none => false
  | .number value =>
      match right.number? with
      | some other => value.equal other
      | none => false
  | .text value =>
      match right with
      | .text other => value == other
      | _ => false
  | .date value =>
      match right with
      | .date other => decide (value = other)
      | _ => false
  | .dateTime value =>
      match right with
      | .dateTime other => value.same other
      | _ => false
  | .tuple items =>
      match right with
      | .tuple others => sameItems items others
      | _ => false
termination_by structural left

def sameItems (left right : List Key) : Bool :=
  match left, right with
  | [], [] => true
  | item :: items, other :: others => same item other && sameItems items others
  | _, _ => false
termination_by structural left

end

end Key

end Criteria
