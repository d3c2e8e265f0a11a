import Criteria.Yaml.Problem

/-!
# Tokens of YAML texts
-/

namespace Criteria.Yaml

/-- What a node is said to be. -/
inductive Tag where
  /-- An exclamation mark alone, which leaves the meaning of a node to its form. -/
  | unspecific
  /-- A kind of data that a text makes up for itself. -/
  | own (name : String)
  /-- A kind of data that every text knows. -/
  | standard (name : String)
  /-- A kind of a family that a text would have to declare. -/
  | undeclared (family name : String)
  deriving DecidableEq, Inhabited

/-- Collections are either set by indentation, in blocks, or by brackets, in the
flow of a line.  A list of tokens ends with `finish`, or with `broken` where no
further token could be read. -/
inductive Token where
  | documentStart
  | documentEnd
  | blockSequenceStart
  | blockMappingStart
  | blockEnd
  | flowSequenceStart
  | flowSequenceEnd
  | flowMappingStart
  | flowMappingEnd
  | item
  | comma
  | key
  | value
  | tag (tag : Tag)
  | scalar (plain : Bool) (text : String)
  | finish
  | broken (problem : Problem)
  deriving DecidableEq, Inhabited

end Criteria.Yaml
