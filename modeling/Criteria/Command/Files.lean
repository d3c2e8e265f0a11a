import Criteria.Text.Stretches

/-!
# Files

What a command sees of a file system: what stands at the end of a path.
-/

namespace Criteria.Command

inductive Entry where
  | directory
  | file (bytes : List UInt8)

/-- The entries at the ends of paths. -/
abbrev Files := String → Option Entry

namespace Route

/-- The steps of a path, some of which may be empty. -/
def steps (path : String) : List String :=
  (stretches '/' path.toList).map String.ofList

/-- A step that leads nowhere else. -/
def isIdle (step : String) : Bool :=
  step = "" || step = "."

def isAbsolute (path : String) : Bool :=
  path.toList.head? = some '/'

/-- A path made of steps. -/
def ofSteps (absolute : Bool) (steps : List String) : String :=
  let path := (if absolute then "/" else "") ++ String.intercalate "/" steps
  if path = "" then "." else path

/-- A path without its idle steps. -/
def shown (path : String) : String :=
  ofSteps (isAbsolute path) ((steps path).filter fun step => !isIdle step)

/-- The steps that remain when every step back takes the one before it away. -/
def straight (steps : List String) : List String :=
  steps.foldl (fun taken step =>
    if isIdle step then taken
    else if step = ".." then taken.dropLast
    else taken ++ [step]) []

/-- A path that leads to the same place without going back. -/
def resolved (path : String) : String :=
  ofSteps (isAbsolute path) (straight (steps path))

/-- The directories on the way to a path that does not go back, the nearest
first. -/
def parents (path : String) : List String :=
  let steps := straight (steps path)
  ((List.range steps.length).drop 1).reverse.map fun count =>
    ofSteps (isAbsolute path) (steps.take count)

end Route

namespace Files

/-- What stands at the end of some steps into a directory of files. -/
def entryAt (files : List (List String × List UInt8)) (place : List String) : Option Entry :=
  match files.find? fun file => file.1 = place with
  | some file => some (.file file.2)
  | none =>
      if place.isEmpty || files.any fun file => place.isPrefixOf file.1 then some .directory
      else none

/-- Follows steps from a place; a step can only be taken in a directory. -/
def follow (files : List (List String × List UInt8)) :
    List String → List String → Option Entry
  | place, [] => entryAt files place
  | place, step :: rest =>
      match entryAt files place with
      | some .directory =>
          if Route.isIdle step then follow files place rest
          else if step = ".." then follow files place.dropLast rest
          else follow files (place ++ [step]) rest
      | _ => none

/-- The entries of a directory with the given files, which is all there is. -/
def ofList (files : List (String × List UInt8)) : Files :=
  let placed := files.map fun file => (Route.straight (Route.steps file.1), file.2)
  fun path =>
    if path = "" || Route.isAbsolute path then none else follow placed [] (Route.steps path)

end Files

end Criteria.Command
