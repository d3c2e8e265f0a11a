import Criteria.Schema.Specification
import Criteria.Unicode.Utf8
import Criteria.Yaml.Load

/-!
# Sources

Files with data in YAML, of which JSON is a part.  A document may be any data, a
specification has to be a mapping that describes one.
-/

namespace Criteria

structure Source where
  name : String
  bytes : List UInt8

/-- Why a source holds no data. -/
inductive ReadError where
  | encoding (fault : Utf8.Fault)
  | yaml (problem : Yaml.Problem)
  deriving DecidableEq, Inhabited

/-- Why a source does not hold what is wanted. -/
inductive LoadError where
  | unreadable (error : ReadError)
  | notMapping
  | invalid (issues : List Schema.Issue)

/-- A source that does not hold what is wanted. -/
structure LoadFailure where
  source : String
  error : LoadError

namespace LoadError

/-- What is said about a source.  Nothing is said of a datum that does not exist. -/
def summary? : LoadError → Option String
  | .unreadable (.encoding fault) => some ("not valid UTF-8 (" ++ fault.reason ++ ")")
  | .unreadable (.yaml .noSuchDatum) => none
  | .unreadable (.yaml _) => some "invalid YAML/JSON"
  | .notMapping => some "specification must be a mapping"
  | .invalid _ => some "invalid specification"

end LoadError

namespace LoadFailure

def message? (failure : LoadFailure) : Option String :=
  failure.error.summary?.map fun summary => failure.source ++ ": " ++ summary

end LoadFailure

namespace Source

/-- Every line ends with a single line feed, whatever its end was. -/
def unifiedLineEnds : List Char → List Char
  | [] => []
  | '\r' :: '\n' :: rest => '\n' :: unifiedLineEnds rest
  | char :: rest => (if char = '\r' then '\n' else char) :: unifiedLineEnds rest

/-- The data of a source; an empty one holds null. -/
def data (source : Source) : Except ReadError Value :=
  match Utf8.decode source.bytes with
  | .error fault => .error (.encoding fault)
  | .ok chars =>
      match Yaml.load (unifiedLineEnds chars) with
      | .ok data => .ok data
      | .error problem => .error (.yaml problem)

def refuse (source : Source) (error : LoadError) : Except LoadFailure α :=
  .error ⟨source.name, error⟩

/-- The document in a source; null stands for a mapping without entries. -/
def document (source : Source) : Except LoadFailure Value :=
  match source.data with
  | .error error => source.refuse (.unreadable error)
  | .ok .null => .ok (.mapping [])
  | .ok data => .ok data

def specification (source : Source) : Except LoadFailure Specification :=
  match source.data with
  | .error error => source.refuse (.unreadable error)
  | .ok (.mapping entries) =>
      match Specification.ofValue (.mapping entries) with
      | .ok specification => .ok specification
      | .error issues => source.refuse (.invalid issues)
  | .ok _ => source.refuse .notMapping

end Source

end Criteria
