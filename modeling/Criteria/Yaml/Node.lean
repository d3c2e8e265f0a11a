import Criteria.Yaml.Lexer

/-!
# Nodes

The tree of a document: scalars, sequences and mappings as they are written.
Between brackets a pair may stand for a mapping of its own; where a key or a
value is left out, a plain scalar without text takes its place.
-/

namespace Criteria.Yaml

inductive Node where
  | scalar (tag : Option Tag) (plain : Bool) (text : String)
  | sequence (tag : Option Tag) (items : List Node)
  | mapping (tag : Option Tag) (entries : List (Node × Node))
  deriving Inhabited

namespace Node

def missing : Node := .scalar none true ""

end Node

/-- Where a node stands. -/
inductive Surroundings where
  /-- Between brackets, where no block can begin. -/
  | flow
  | block
  /-- After a key or a colon of a block, where the items of a sequence may stand
  at the margin of the mapping. -/
  | entry
  deriving DecidableEq

abbrev NodeReading := StateT (List Token) (Except Problem)

namespace NodeReading

def peek : NodeReading Token := do
  return (← get).head?.getD .finish

def skip : NodeReading Unit :=
  modify List.tail

/-- No document goes on with this token. -/
def refuse (token : Token) : NodeReading α :=
  match token with
  | .broken problem => throw problem
  | _ => throw .noDocument

def isNext (token : Token) : NodeReading Bool := do
  return decide ((← peek) = token)

def accept (token : Token) : NodeReading Bool := do
  if (← isNext token) then skip; return true else return false

def expect (token : Token) : NodeReading Unit := do
  if !(← accept token) then refuse (← peek)

def readTag : NodeReading (Option Tag) := do
  match (← peek) with
  | .tag (.undeclared ..) => do
      skip
      refuse (← peek)
  | .tag tag => do
      skip
      return some tag
  | _ => return none

mutual

def readNode (surroundings : Surroundings) : Nat → NodeReading Node
  | 0 => do refuse (← peek)
  | budget + 1 => do
      let tag ← readTag
      let token ← peek
      match token, surroundings with
      | .scalar plain text, _ => do skip; return .scalar tag plain text
      | .flowSequenceStart, _ => do
          skip
          return .sequence tag (← readFlowItems true budget)
      | .flowMappingStart, _ => do
          skip
          return .mapping tag (← readFlowEntries true budget)
      | .item, .entry => return .sequence tag (← readMarginItems budget)
      | token, surroundings =>
          if token = .blockSequenceStart && surroundings ≠ .flow then
            skip
            return .sequence tag (← readBlockItems budget)
          else if token = .blockMappingStart && surroundings ≠ .flow then
            skip
            return .mapping tag (← readBlockEntries budget)
          else if tag.isSome then return .scalar tag true ""
          else refuse token

/-- A node that may be left out before some tokens. -/
def readUnless (stops : List Token) (surroundings : Surroundings) : Nat → NodeReading Node
  | 0 => do refuse (← peek)
  | budget + 1 => do
      if stops.contains (← peek) then return .missing else readNode surroundings budget

/-- A value, if a colon announces one. -/
def readValue (stops : List Token) (surroundings : Surroundings) : Nat → NodeReading Node
  | 0 => do refuse (← peek)
  | budget + 1 => do
      if (← accept .value) then readUnless stops surroundings budget else return .missing

def readBlockItems : Nat → NodeReading (List Node)
  | 0 => do refuse (← peek)
  | budget + 1 => do
      if (← accept .item) then
        let item ← readUnless [.item, .blockEnd] .block budget
        return item :: (← readBlockItems budget)
      else
        expect .blockEnd
        return []

/-- The items of a sequence at the margin of a mapping, which goes on behind
them. -/
def readMarginItems : Nat → NodeReading (List Node)
  | 0 => do refuse (← peek)
  | budget + 1 => do
      if (← accept .item) then
        let item ← readUnless [.item, .key, .value, .blockEnd] .block budget
        return item :: (← readMarginItems budget)
      else return []

def readBlockEntries : Nat → NodeReading (List (Node × Node))
  | 0 => do refuse (← peek)
  | budget + 1 => do
      if (← accept .key) then
        let key ← readUnless [.key, .value, .blockEnd] .entry budget
        let value ← readValue [.key, .value, .blockEnd] .entry budget
        return (key, value) :: (← readBlockEntries budget)
      else
        expect .blockEnd
        return []

def readFlowItems (first : Bool) : Nat → NodeReading (List Node)
  | 0 => do refuse (← peek)
  | budget + 1 => do
      if (← accept .flowSequenceEnd) then return []
      else
        if !first then expect .comma
        readFlowItem budget

/-- An item after a comma, unless the sequence ends there. -/
def readFlowItem : Nat → NodeReading (List Node)
  | 0 => do refuse (← peek)
  | budget + 1 => do
      if (← accept .key) then
        let key ← readUnless [.value, .comma, .flowSequenceEnd] .flow budget
        let value ← readValue [.comma, .flowSequenceEnd] .flow budget
        return .mapping none [(key, value)] :: (← readFlowItems false budget)
      else if (← accept .flowSequenceEnd) then return []
      else
        let item ← readNode .flow budget
        return item :: (← readFlowItems false budget)

def readFlowEntries (first : Bool) : Nat → NodeReading (List (Node × Node))
  | 0 => do refuse (← peek)
  | budget + 1 => do
      if (← accept .flowMappingEnd) then return []
      else
        if !first then expect .comma
        readFlowEntry budget

/-- An entry after a comma, unless the mapping ends there. -/
def readFlowEntry : Nat → NodeReading (List (Node × Node))
  | 0 => do refuse (← peek)
  | budget + 1 => do
      if (← accept .key) then
        let key ← readUnless [.value, .comma, .flowMappingEnd] .flow budget
        let value ← readValue [.comma, .flowMappingEnd] .flow budget
        return (key, value) :: (← readFlowEntries false budget)
      else if (← accept .flowMappingEnd) then return []
      else
        let key ← readNode .flow budget
        return (key, .missing) :: (← readFlowEntries false budget)

end

/-- Reads a document in full, after which nothing but its end may stand. -/
def readDocument (budget : Nat) : NodeReading (Option Node) := do
  if (← isNext .finish) then return none
  let node ←
    if (← accept .documentStart) then
      readUnless [.documentStart, .documentEnd, .finish] .block budget
    else readNode .block budget
  modify fun tokens => tokens.dropWhile fun token => token = .documentEnd
  match (← peek) with
  | .finish => return some node
  | .documentStart => throw .severalDocuments
  | token => refuse token

end NodeReading

namespace Node

/-- The document of a text, if it has one.  Between two tokens that are passed
there are at most three steps into the tree, which bounds the reading. -/
def ofTokens? (tokens : List Token) : Except Problem (Option Node) := do
  let (node, _) ← (NodeReading.readDocument (4 * (tokens.length + 1))).run tokens
  return node

end Node

end Criteria.Yaml
