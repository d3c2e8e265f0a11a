/-!
# Operators

The operators that every full table knows, their names and their families.
-/

namespace Criteria

inductive Family where
  | comparison
  | collection
  | existence
  | pattern
  | structural
  | logical
  | range
  | date
  | string
  | custom
  deriving DecidableEq

namespace Family

def name : Family → String
  | .comparison => "comparison"
  | .collection => "collection"
  | .existence => "existence"
  | .pattern => "pattern"
  | .structural => "structural"
  | .logical => "logical"
  | .range => "range"
  | .date => "date"
  | .string => "string"
  | .custom => "custom"

end Family

inductive Operator where
  | equal
  | notEqual
  | greater
  | greaterOrEqual
  | less
  | lessOrEqual
  | isIn
  | isNotIn
  | containsAll
  | size
  | present
  | kind
  | regex
  | element
  | conjunction
  | disjunction
  | negation
  | between
  | dateBefore
  | dateAfter
  | contains
  | startsWith
  | endsWith
  deriving DecidableEq

namespace Operator

/-- All operators, in the order of the table. -/
def all : List Operator :=
  [.equal, .notEqual, .greater, .greaterOrEqual, .less, .lessOrEqual, .isIn, .isNotIn,
    .containsAll, .size, .present, .kind, .regex, .element, .conjunction, .disjunction,
    .negation, .between, .dateBefore, .dateAfter, .contains, .startsWith, .endsWith]

def name : Operator → String
  | .equal => "$eq"
  | .notEqual => "$ne"
  | .greater => "$gt"
  | .greaterOrEqual => "$gte"
  | .less => "$lt"
  | .lessOrEqual => "$lte"
  | .isIn => "$in"
  | .isNotIn => "$nin"
  | .containsAll => "$all"
  | .size => "$size"
  | .present => "$exists"
  | .kind => "$type"
  | .regex => "$regex"
  | .element => "$elemMatch"
  | .conjunction => "$and"
  | .disjunction => "$or"
  | .negation => "$not"
  | .between => "$between"
  | .dateBefore => "$dateBefore"
  | .dateAfter => "$dateAfter"
  | .contains => "$contains"
  | .startsWith => "$startsWith"
  | .endsWith => "$endsWith"

def family : Operator → Family
  | .equal | .notEqual | .greater | .greaterOrEqual | .less | .lessOrEqual => .comparison
  | .isIn | .isNotIn | .containsAll | .size => .collection
  | .present | .kind => .existence
  | .regex => .pattern
  | .element => .structural
  | .conjunction | .disjunction | .negation => .logical
  | .between => .range
  | .dateBefore | .dateAfter => .date
  | .contains | .startsWith | .endsWith => .string

/-- The operator with a name. -/
def ofName? (name : String) : Option Operator :=
  all.find? fun operator => operator.name = name

/-- The name without its dollar sign, in capitals with words parted by
underscores. -/
def constantName (operator : Operator) : String :=
  String.ofList ((operator.name.toList.drop 1).flatMap fun char =>
    if char.isUpper then ['_', char] else [char.toUpper])

end Operator

end Criteria
