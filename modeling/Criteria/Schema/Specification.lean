import Criteria.Schema.Issue
import Criteria.Specification.Basic
import Criteria.Unicode.Blank
import Criteria.Unicode.Casing

/-!
# Reading specifications

Reads specifications, groups and predicates from values, and writes them out as
values with all of their fields.
-/

namespace Criteria

namespace Schema

/-- The conditions of a query, whose keys all have to be texts. -/
def readFields (location : List Step) : List (Key × Value) → Checked (List (String × Value))
  | [] => .ok []
  | (key, condition) :: rest =>
      let first : Checked String :=
        match key with
        | .text path => .ok path
        | key => refuse (location ++ [stepOf key, .name "[key]"]) .stringType
      match first, readFields location rest with
      | .ok path, .ok fields => .ok ((path, condition) :: fields)
      | first, others => .error (issuesOf first ++ issuesOf others)

def readQuery (location : List Step) (entries : List (Key × Value)) : Checked Query :=
  match field? "query" entries with
  | none => .ok .empty
  | some (.mapping fields) => Query.ofList <$> readFields (location ++ [.name "query"]) fields
  | some _ => refuse (location ++ [.name "query"]) .mappingType

def readPredicate (location : List Step) : Value → Checked Predicate
  | .mapping entries =>
      match requiredText location "id" entries, readQuery location entries,
          extraIssues location ["id", "query"] entries with
      | .ok id, .ok query, [] => .ok ⟨id, query⟩
      | id, query, extra => .error (issuesOf id ++ issuesOf query ++ extra)
  | _ => refuse location (.modelType "Predicate")

/-- A junction in any letter case, with blanks around it. -/
def junctionOf? (written : String) : Option Junction :=
  Junction.ofName? (upperCase (String.ofList (stripBlanks written.toList)))

def readJunction (location : List Step) (entries : List (Key × Value)) : Checked Junction :=
  let inside := location ++ [.name "junction"]
  match field? "junction" entries with
  | none => .ok .all
  | some (.text written) =>
      match junctionOf? written with
      | some junction => .ok junction
      | none => refuse inside .junctionChoice
  | some _ => refuse inside .junctionChoice

/-- A member of a group; a text is the name of a predicate without a query. -/
def readMember (location : List Step) : Value → Checked Predicate
  | .text id => .ok ⟨id, .empty⟩
  | data => readPredicate location data

def readGroup (location : List Step) : Value → Checked Group
  | .mapping entries =>
      match requiredText location "id" entries, readJunction location entries,
          readSequence readMember location "members" entries,
          extraIssues location ["id", "junction", "members"] entries with
      | .ok id, .ok junction, .ok members, [] => .ok ⟨id, junction, members⟩
      | id, junction, members, extra =>
          .error (issuesOf id ++ issuesOf junction ++ issuesOf members ++ extra)
  | _ => refuse location (.modelType "PredicateGroup")

def readSpecification (location : List Step) : Value → Checked Specification
  | .mapping entries =>
      match requiredText location "id" entries,
          readSequence readPredicate location "predicates" entries,
          readSequence readGroup location "groups" entries,
          extraIssues location ["id", "predicates", "groups"] entries with
      | .ok id, .ok predicates, .ok groups, [] => .ok ⟨id, predicates, groups⟩
      | id, predicates, groups, extra =>
          .error (issuesOf id ++ issuesOf predicates ++ issuesOf groups ++ extra)
  | _ => refuse location (.modelType "Specification")

end Schema

namespace Predicate

def ofValue (data : Value) : Schema.Checked Predicate :=
  Schema.readPredicate [] data

def toValue (predicate : Predicate) : Value :=
  .mapping [(.text "id", .text predicate.id), (.text "query", .mapping predicate.query.toEntries)]

end Predicate

namespace Group

def ofValue (data : Value) : Schema.Checked Group :=
  Schema.readGroup [] data

def toValue (group : Group) : Value :=
  .mapping [
    (.text "id", .text group.id),
    (.text "junction", .text group.junction.name),
    (.text "members", .list (group.members.map Predicate.toValue))]

end Group

namespace Specification

def ofValue (data : Value) : Schema.Checked Specification :=
  Schema.readSpecification [] data

def toValue (specification : Specification) : Value :=
  .mapping [
    (.text "id", .text specification.id),
    (.text "predicates", .list (specification.predicates.map Predicate.toValue)),
    (.text "groups", .list (specification.groups.map Group.toValue))]

end Specification

end Criteria
