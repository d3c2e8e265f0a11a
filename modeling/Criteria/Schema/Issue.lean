import Criteria.Value.Literal

/-!
# Issues

What can be wrong with data that are read as a model, and where.  All issues of
the data are collected: those of the fields in their order, then those of keys
that no field has.
-/

namespace Criteria.Schema

/-- A step on the way to a part of the data. -/
inductive Step where
  | name (text : String)
  | index (number : Int)
  deriving DecidableEq

inductive Complaint where
  | missing
  | extraForbidden
  | invalidKey
  | stringType
  | mappingType
  | sequenceType
  | modelType (model : String)
  | junctionChoice
  | integerType
  | integerText
  | integerFraction
  | finiteNumber
  | atLeastOne
  deriving DecidableEq

namespace Complaint

/-- The keyword of a complaint. -/
def keyword : Complaint → String
  | .missing => "missing"
  | .extraForbidden => "extra_forbidden"
  | .invalidKey => "invalid_key"
  | .stringType => "string_type"
  | .mappingType => "dict_type"
  | .sequenceType => "tuple_type"
  | .modelType _ => "model_type"
  | .junctionChoice => "enum"
  | .integerType => "int_type"
  | .integerText => "int_parsing"
  | .integerFraction => "int_from_float"
  | .finiteNumber => "finite_number"
  | .atLeastOne => "greater_than_equal"

def message : Complaint → String
  | .missing => "Field required"
  | .extraForbidden => "Extra inputs are not permitted"
  | .invalidKey => "Keys should be strings"
  | .stringType => "Input should be a valid string"
  | .mappingType => "Input should be a valid dictionary"
  | .sequenceType => "Input should be a valid tuple"
  | .modelType model => "Input should be a valid dictionary or instance of " ++ model
  | .junctionChoice => "Input should be 'AND' or 'OR'"
  | .integerType => "Input should be a valid integer"
  | .integerText => "Input should be a valid integer, unable to parse string as an integer"
  | .integerFraction => "Input should be a valid integer, got a number with a fractional part"
  | .finiteNumber => "Input should be a finite number"
  | .atLeastOne => "Input should be greater than or equal to 1"

end Complaint

structure Issue where
  location : List Step
  complaint : Complaint
  deriving DecidableEq

/-- Data read as a model, or everything that is wrong with them. -/
abbrev Checked (α : Type) := Except (List Issue) α

def refuse (location : List Step) (complaint : Complaint) : Checked α :=
  .error [⟨location, complaint⟩]

def issuesOf : Checked α → List Issue
  | .ok _ => []
  | .error issues => issues

def fitsWord (value : Int) : Bool :=
  -9223372036854775808 ≤ value && value < 9223372036854775808

/-- The step that a key makes: a whole number of 64 bits stands for itself, other
keys for their literals. -/
def stepOf : Key → Step
  | .text name => .name name
  | .boolean value => .index (if value then 1 else 0)
  | .number (.integer value) =>
      if fitsWord value then .index value else .name (toString value)
  | key => .name (Literal.ofKey key)

/-- The value of a field of a model. -/
def field? (name : String) (entries : List (Key × Value)) : Option Value :=
  Entries.lookup (.text name) entries

/-- The issues of keys that no field has. -/
def extraIssues (location : List Step) (fields : List String) (entries : List (Key × Value)) :
    List Issue :=
  entries.filterMap fun (key, _) =>
    match key with
    | .text name =>
        if fields.contains name then none
        else some ⟨location ++ [stepOf key], .extraForbidden⟩
    | _ => some ⟨location ++ [stepOf key], .invalidKey⟩

def readText (location : List Step) : Value → Checked String
  | .text written => .ok written
  | _ => refuse location .stringType

/-- A text that has to be there. -/
def requiredText (location : List Step) (name : String) (entries : List (Key × Value)) :
    Checked String :=
  match field? name entries with
  | some value => readText (location ++ [.name name]) value
  | none => refuse (location ++ [.name name]) .missing

/-- The results of items at successive positions, or all of their issues. -/
def readItems (read : List Step → Value → Checked α) (location : List Step) :
    Nat → List Value → Checked (List α)
  | _, [] => .ok []
  | position, item :: items =>
      match read (location ++ [.index position]) item,
          readItems read location (position + 1) items with
      | .ok result, .ok results => .ok (result :: results)
      | first, others => .error (issuesOf first ++ issuesOf others)

/-- A list or a tuple of models; without it there are none. -/
def readSequence (read : List Step → Value → Checked α) (location : List Step) (name : String)
    (entries : List (Key × Value)) : Checked (List α) :=
  match field? name entries with
  | none => .ok []
  | some value =>
      let inside := location ++ [.name name]
      match value.items? with
      | some items => readItems read inside 0 items
      | none => refuse inside .sequenceType

end Criteria.Schema
