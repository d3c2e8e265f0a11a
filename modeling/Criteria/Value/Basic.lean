import Criteria.Value.Key

/-!
# Values

The values of documents and of conditions.  The entries of a mapping are kept in
the order in which they were first written; in a well-formed value no mapping
has two entries under the same key.
-/

namespace Criteria

inductive Value where
  | null
  | boolean (value : Bool)
  | number (value : Number)
  | text (value : String)
  | date (value : Date)
  | dateTime (value : DateTime)
  | list (items : List Value)
  | tuple (items : List Value)
  | mapping (entries : List (Key × Value))
  deriving Inhabited

namespace Value

def integer (value : Int) : Value :=
  .number (.integer value)

/-- The items of a collection. -/
def items? : Value → Option (List Value)
  | .list items => some items
  | .tuple items => some items
  | _ => none

/-- The entries of a mapping. -/
def entries? : Value → Option (List (Key × Value))
  | .mapping entries => some entries
  | _ => none

mutual

/-- The key that a value is.  Lists and mappings are none, nor are tuples that hold
one. -/
def key? (value : Value) : Option Key :=
  match value with
  | .null => some .null
  | .boolean value => some (.boolean value)
  | .number value => some (.number value)
  | .text value => some (.text value)
  | .date value => some (.date value)
  | .dateTime value => some (.dateTime value)
  | .tuple items => (keys? items).map Key.tuple
  | .list _ => none
  | .mapping _ => none
termination_by structural value

def keys? (items : List Value) : Option (List Key) :=
  match items with
  | [] => some []
  | item :: rest => do return (← key? item) :: (← keys? rest)
termination_by structural items

end

/-- What counts as true: everything but null, false, zero and what is empty. -/
def isTruthy : Value → Bool
  | .null => false
  | .boolean value => value
  | .number (.integer value) => value ≠ 0
  | .number (.binary value) => !value.isZero
  | .text value => value ≠ ""
  | .date _ => true
  | .dateTime _ => true
  | .list items => !items.isEmpty
  | .tuple items => !items.isEmpty
  | .mapping entries => !entries.isEmpty

end Value

namespace Entries

/-- The value under a key, which is compared as a datum and not as an object: nothing is
found under the undefined number. -/
def lookup (key : Key) : List (Key × Value) → Option Value
  | [] => none
  | (other, value) :: rest => if other.same key then some value else lookup key rest

/-- Puts a value under a key; an entry that is there keeps its place and its
spelling of the key. -/
def insert (key : Key) (value : Value) : List (Key × Value) → List (Key × Value)
  | [] => [(key, value)]
  | (other, old) :: rest =>
      if other.same key then (other, value) :: rest else (other, old) :: insert key value rest

/-- The entries that remain when a list of entries is written one by one. -/
def ofList (entries : List (Key × Value)) : List (Key × Value) :=
  entries.foldl (fun written entry => insert entry.1 entry.2 written) []

/-- No entry is found under the key of an earlier one. -/
def DistinctKeys : List (Key × Value) → Prop
  | [] => True
  | (key, _) :: rest => (∀ entry ∈ rest, key.same entry.1 = false) ∧ DistinctKeys rest

end Entries

namespace Value

mutual

/-- No mapping, at any depth, has two entries under the same key. -/
def WellFormed (value : Value) : Prop :=
  match value with
  | .list items => AllWellFormed items
  | .tuple items => AllWellFormed items
  | .mapping entries => Entries.DistinctKeys entries ∧ EntriesWellFormed entries
  | _ => True
termination_by structural value

def AllWellFormed (items : List Value) : Prop :=
  match items with
  | [] => True
  | item :: items => WellFormed item ∧ AllWellFormed items
termination_by structural items

def EntriesWellFormed (entries : List (Key × Value)) : Prop :=
  match entries with
  | [] => True
  | (_, value) :: entries => WellFormed value ∧ EntriesWellFormed entries
termination_by structural entries

end

end Value

end Criteria
