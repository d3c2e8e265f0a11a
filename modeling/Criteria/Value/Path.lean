import Criteria.Text.Stretches
import Criteria.Value.Basic

/-!
# Paths

A path is a text of segments separated by dots.  It is followed through nested
mappings only: no segment enters a list, and no segment finds a key that is not
a text.
-/

namespace Criteria

/-- What a path leads to in a document. -/
inductive Resolution where
  | found (value : Value)
  | missing (path : String)

namespace Path

def segments (path : String) : List String :=
  (stretches '.' path.toList).map String.ofList

/-- Follows segments through nested mappings. -/
def follow : List String → Value → Option Value
  | [], value => some value
  | segment :: segments, .mapping entries =>
      match Entries.lookup (.text segment) entries with
      | some value => follow segments value
      | none => none
  | _ :: _, _ => none

end Path

def resolve (document : Value) (path : String) : Resolution :=
  match Path.follow (Path.segments path) document with
  | some value => .found value
  | none => .missing path

end Criteria
