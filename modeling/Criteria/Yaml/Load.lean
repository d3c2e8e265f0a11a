import Criteria.Yaml.Node
import Criteria.Yaml.Scalar

/-!
# Data of YAML texts

The data that a text denotes.  A mapping keeps its entries in the order in which
their keys are first written, each with the value that is written last.  Of
several problems with data the outermost is reported, and of those the first.
-/

namespace Criteria.Yaml

/-- A problem and how deep in the tree it is found. -/
structure DeepProblem where
  depth : Nat
  problem : Problem

abbrev Loading := Except DeepProblem

namespace Loading

def failAt (depth : Nat) (problem : Problem) : Loading α :=
  .error ⟨depth, problem⟩

/-- Both data, or the problem that is less deep. -/
def pair (left : Loading α) (right : Loading β) : Loading (α × β) :=
  match left, right with
  | .ok left, .ok right => .ok (left, right)
  | .ok _, .error problem => .error problem
  | .error problem, .ok _ => .error problem
  | .error first, .error second => .error (if second.depth < first.depth then second else first)

def located (depth : Nat) (datum : Except Problem α) : Loading α :=
  match datum with
  | .ok datum => .ok datum
  | .error problem => failAt depth problem

end Loading

namespace Node

/-- The datum of a scalar by its form; two forms have no meaning but in keys. -/
def formDatum (text : String) : Except Problem Value :=
  if text = "=" || text = "<<" then .error .noData else Scalar.datum text

/-- The datum of a scalar; the standard tag of texts makes a text of any. -/
def scalarDatum (tag : Option Tag) (plain : Bool) (text : String) : Except Problem Value :=
  match tag with
  | some .unspecific => formDatum text
  | some (.standard "str") => .ok (.text text)
  | some _ => .error .noData
  | none => if plain then formDatum text else .ok (.text text)

/-- A tag makes something else of a collection than its form says. -/
def isForeign (tag : Option Tag) : Bool :=
  tag.isSome && tag ≠ some .unspecific

/-- The key that a node is; only scalars are keys. -/
def keyDatum : Node → Except Problem Key
  | .scalar none true "=" => .ok (.text "=")
  | .scalar tag plain text => do
      match (← scalarDatum tag plain text).key? with
      | some key => return key
      | none => throw .noData
  | _ => .error .noData

mutual

/-- The data of a node at a depth of the tree. -/
def dataAt (node : Node) (depth : Nat) : Loading Value :=
  match node with
  | .scalar tag plain text => Loading.located depth (scalarDatum tag plain text)
  | .sequence tag items =>
      if isForeign tag then Loading.failAt depth .noData
      else Value.list <$> itemsAt items (depth + 1)
  | .mapping tag entries =>
      if isForeign tag then Loading.failAt depth .noData
      else (fun entries => Value.mapping (Entries.ofList entries)) <$> entriesAt entries (depth + 1)
termination_by structural node

def itemsAt (items : List Node) (depth : Nat) : Loading (List Value) :=
  match items with
  | [] => .ok []
  | item :: rest =>
      (fun (item, rest) => item :: rest) <$> Loading.pair (dataAt item depth) (itemsAt rest depth)
termination_by structural items

def entriesAt (entries : List (Node × Node)) (depth : Nat) : Loading (List (Key × Value)) :=
  match entries with
  | [] => .ok []
  | (key, value) :: rest =>
      (fun (entry, rest) => entry :: rest) <$>
        Loading.pair
          (Loading.pair (Loading.located depth key.keyDatum) (dataAt value depth))
          (entriesAt rest depth)
termination_by structural entries

end

def data (node : Node) : Except Problem Value :=
  match node.dataAt 0 with
  | .ok data => .ok data
  | .error found => .error found.problem

end Node

/-- The data of a text; one without a document denotes null. -/
def load (chars : List Char) : Except Problem Value := do
  if !chars.all isPermitted then throw .forbiddenCharacter
  match (← Node.ofTokens? (Token.ofChars chars)) with
  | some node => node.data
  | none => return .null

end Criteria.Yaml
