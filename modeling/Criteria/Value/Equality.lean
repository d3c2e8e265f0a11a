import Criteria.Value.Basic

/-!
# Equality of values

Numbers are equal by their exact value, truth values only to themselves, lists
and tuples item by item, and mappings by their entries in any order.
-/

namespace Criteria

namespace Value

mutual

def equal (left right : Value) : Bool :=
  match left with
  | .null =>
      match right with
      | .null => true
      | _ => false
  | .boolean value =>
      match right with
      | .boolean other => value == other
      | _ => false
  | .number value =>
      match right with
      | .number other => value.equal other
      | _ => false
  | .text value =>
      match right with
      | .text other => value == other
      | _ => false
  | .date value =>
      match right with
      | .date other => decide (value = other)
      | _ => false
  | .dateTime value =>
      match right with
      | .dateTime other => value.same other
      | _ => false
  | .list items =>
      match right.items? with
      | some others => itemsEqual items others
      | none => false
  | .tuple items =>
      match right.items? with
      | some others => itemsEqual items others
      | none => false
  | .mapping entries =>
      match right with
      | .mapping others => entries.length == others.length && entriesEqual entries others
      | _ => false
termination_by structural left

def itemsEqual (left right : List Value) : Bool :=
  match left, right with
  | [], [] => true
  | item :: items, other :: others => equal item other && itemsEqual items others
  | _, _ => false
termination_by structural left

/-- Every entry on the left has an equal value under its key on the right. -/
def entriesEqual (left right : List (Key × Value)) : Bool :=
  match left with
  | [] => true
  | (key, value) :: rest =>
      (match Entries.lookup key right with
        | some other => equal value other
        | none => false) && entriesEqual rest right
termination_by structural left

end

/-- A value equals one of the options. -/
def memberOf (value : Value) (options : List Value) : Bool :=
  options.any fun option => value.equal option

end Value

end Criteria
