import Criteria.Yaml.Plain
import Criteria.Yaml.Quoted
import Criteria.Yaml.Token

/-!
# Reading tokens

A colon makes a key of what stands before it on its line.  The lexer therefore
keeps the places where such a key may begin, one for each bracket that is open,
and puts the tokens that open a key there when the colon comes.  Blocks are
opened and closed by the columns of their first tokens.
-/

namespace Criteria.Yaml

/-- A place in a text. -/
structure Position where
  index : Nat
  line : Nat
  column : Nat
  deriving DecidableEq

namespace Position

/-- The place behind a character. -/
def after (position : Position) (char : Char) : Position :=
  if isBreak char then ⟨position.index + 1, position.line + 1, 0⟩
  else if char = byteOrderMark then { position with index := position.index + 1 }
  else ⟨position.index + 1, position.line, position.column + 1⟩

end Position

/-- A place where a key may begin: how many tokens come before it, and whether a
colon has to follow because nothing but a key can stand there. -/
structure PossibleKey where
  tokensBefore : Nat
  required : Bool
  position : Position

/-- What is known while tokens are read: the characters ahead and their place,
the tokens so far, the latest first, the margins of the open blocks, the
innermost first, a possible key for every open bracket and one for outside, and
whether a key may begin at the next token. -/
structure Lexer where
  chars : List Char
  position : Position
  tokens : List Token
  margins : List Nat
  keys : List (Option PossibleKey)
  keyAllowed : Bool

abbrev Lexing := StateT Lexer (Except Problem)

namespace Lexer

def ofChars (chars : List Char) : Lexer :=
  { chars := chars
    position := ⟨0, 0, 0⟩
    tokens := []
    margins := []
    keys := [none]
    keyAllowed := true }

def inFlow (lexer : Lexer) : Bool :=
  1 < lexer.keys.length

/-- The first column inside of the innermost block. -/
def margin (lexer : Lexer) : Nat :=
  lexer.margins.head?.getD 0

/-- The place for a possible key within the innermost bracket. -/
def key? (lexer : Lexer) : Option PossibleKey :=
  lexer.keys.head?.join

def withKey (lexer : Lexer) (key : Option PossibleKey) : Lexer :=
  { lexer with keys := key :: lexer.keys.tail }

/-- Puts a token after the first ones. -/
def insert (lexer : Lexer) (tokensBefore : Nat) (token : Token) : Lexer :=
  let later := lexer.tokens.length - tokensBefore
  { lexer with tokens := lexer.tokens.take later ++ token :: lexer.tokens.drop later }

end Lexer

namespace Lexing

def emit (token : Token) : Lexing Unit :=
  modify fun lexer => { lexer with tokens := token :: lexer.tokens }

/-- Moves past some characters. -/
def advance (count : Nat) : Lexing Unit :=
  modify fun lexer =>
    { lexer with
      chars := lexer.chars.drop count
      position := (lexer.chars.take count).foldl Position.after lexer.position }

/-- Moves to where only the given characters are ahead. -/
def advanceTo (rest : List Char) : Lexing Unit := do
  advance ((← get).chars.length - rest.length)

def allowKey (allowed : Bool) : Lexing Unit :=
  modify fun lexer => { lexer with keyAllowed := allowed }

/-- Spaces, comments and line ends, and whether a line ends among them. -/
def skipped (inComment : Bool) : List Char → List Char × Bool
  | [] => ([], false)
  | char :: rest =>
      if isBreak char then ((skipped false rest).1, true)
      else if inComment || char = '#' then skipped true rest
      else if char = ' ' then skipped false rest
      else (char :: rest, false)

/-- Moves to the next token.  Outside of brackets a key may begin on every new
line. -/
def skipToToken : Lexing Unit := do
  let lexer ← get
  if lexer.position.index = 0 && lexer.chars.head? = some byteOrderMark then advance 1
  let (rest, crossesLine) := skipped false (← get).chars
  advanceTo rest
  if crossesLine && !lexer.inFlow then allowKey true

/-- Gives a possible key up; it must not have been required. -/
def giveUp (key : Option PossibleKey) : Lexing Unit :=
  match key with
  | some key => if key.required then throw .noToken else pure ()
  | none => pure ()

/-- A key stands on one line and is short enough to be seen in advance. -/
def isStale (position : Position) (key : PossibleKey) : Bool :=
  key.position.line ≠ position.line || key.position.index + 1024 < position.index

def giveUpStaleKeys : Lexing Unit := do
  let lexer ← get
  let stale (key : Option PossibleKey) : Option PossibleKey :=
    key.filter (isStale lexer.position)
  lexer.keys.forM fun key => giveUp (stale key)
  modify fun lexer =>
    { lexer with keys := lexer.keys.map fun key => if (stale key).isSome then none else key }

def giveUpKey : Lexing Unit := do
  giveUp (← get).key?
  modify fun lexer => lexer.withKey none

/-- Notes that a key may begin here. -/
def noteKey : Lexing Unit := do
  let lexer ← get
  if lexer.keyAllowed then
    giveUpKey
    let required := !lexer.inFlow && lexer.margin = lexer.position.column + 1
    modify fun lexer =>
      lexer.withKey (some ⟨lexer.tokens.length, required, lexer.position⟩)

/-- Closes the blocks whose margin lies beyond a limit. -/
def closeBlocks (limit : Nat) : Lexing Unit :=
  modify fun lexer =>
    let closed := lexer.margins.takeWhile fun margin => limit < margin
    { lexer with
      margins := lexer.margins.drop closed.length
      tokens := closed.map (fun _ => .blockEnd) ++ lexer.tokens }

/-- Opens a block at a column, unless the innermost one begins there already, by
a token after the first ones. -/
def openBlock (column tokensBefore : Nat) (start : Token) : Lexing Unit :=
  modify fun lexer =>
    if lexer.margin ≤ column then
      { lexer.insert tokensBefore start with margins := (column + 1) :: lexer.margins }
    else lexer

/-- Opens a block with the token that comes next. -/
def openBlockHere (start : Token) : Lexing Unit := do
  let lexer ← get
  if !lexer.keyAllowed then throw .noToken
  openBlock lexer.position.column lexer.tokens.length start

def readMarker (marker : Token) : Lexing Unit := do
  closeBlocks 0
  giveUpKey
  allowKey false
  advance 3
  emit marker

def readFlowStart (start : Token) : Lexing Unit := do
  noteKey
  modify fun lexer => { lexer with keys := none :: lexer.keys, keyAllowed := true }
  advance 1
  emit start

def readFlowEnd (ending : Token) : Lexing Unit := do
  giveUpKey
  modify fun lexer =>
    { lexer with
      keys := if lexer.inFlow then lexer.keys.tail else lexer.keys
      keyAllowed := false }
  advance 1
  emit ending

def readComma : Lexing Unit := do
  allowKey true
  giveUpKey
  advance 1
  emit .comma

def readItem : Lexing Unit := do
  if !(← get).inFlow then openBlockHere .blockSequenceStart
  allowKey true
  giveUpKey
  advance 1
  emit .item

/-- A question mark, which begins a key of any length. -/
def readKey : Lexing Unit := do
  let inFlow := (← get).inFlow
  if !inFlow then openBlockHere .blockMappingStart
  allowKey (!inFlow)
  giveUpKey
  advance 1
  emit .key

/-- A colon, which makes a key of what was noted as a possible one. -/
def readValue : Lexing Unit := do
  let lexer ← get
  match lexer.key? with
  | some key =>
      set ((lexer.withKey none).insert key.tokensBefore .key)
      if !lexer.inFlow then
        openBlock key.position.column key.tokensBefore .blockMappingStart
      allowKey false
  | none =>
      if !lexer.inFlow then openBlockHere .blockMappingStart
      allowKey (!lexer.inFlow)
      giveUpKey
  advance 1
  emit .value

/-- The characters of the name of a tag. -/
def isTagChar (char : Char) : Bool :=
  char.isAlphanum || "-;/?:@&=+$,_.!~*'()[]".toList.contains char

def isFamilyChar (char : Char) : Bool :=
  char.isAlphanum || char = '-' || char = '_'

/-- The name of a tag and what follows, where a blank has to come. -/
def tagName (chars : List Char) : Except Problem (String × List Char) :=
  let name := chars.takeWhile isTagChar
  let rest := chars.drop name.length
  if name.isEmpty || !endsWord rest || rest.head? = some '\t' then .error .noToken
  else .ok (String.ofList name, rest)

/-- The tag behind an exclamation mark.  If there is a second one in the word, the
text before it names a family of tags. -/
def tag (chars : List Char) : Except Problem (Tag × List Char) := do
  if endsWord chars then
    if chars.head? = some '\t' then throw .noToken
    return (.unspecific, chars)
  else if (chars.takeWhile fun char => char ≠ ' ' && !isBreak char).contains '!' then
    let family := chars.takeWhile isFamilyChar
    let '!' :: chars := chars.drop family.length | throw .noToken
    let (name, rest) ← tagName chars
    if family.isEmpty then return (.standard name, rest)
    else return (.undeclared (String.ofList family) name, rest)
  else
    let (name, rest) ← tagName chars
    return (.own name, rest)

def readTag : Lexing Unit := do
  noteKey
  allowKey false
  let (tag, rest) ← tag ((← get).chars.drop 1)
  advanceTo rest
  emit (.tag tag)

def readQuoted (style : Quoted.Style) : Lexing Unit := do
  noteKey
  allowKey false
  let (text, rest) ← Quoted.read style ((← get).chars.drop 1)
  advanceTo rest
  emit (.scalar false (String.ofList text))

def readPlain : Lexing Unit := do
  noteKey
  let lexer ← get
  let (text, crossesLine, rest) := Plain.read lexer.inFlow lexer.margin lexer.chars
  allowKey crossesLine
  advanceTo rest
  emit (.scalar true (String.ofList text))

def readFinish : Lexing Unit := do
  closeBlocks 0
  giveUpKey
  emit .finish

/-- Reads the token that begins with the next character. -/
def readToken : Lexing Unit := do
  let lexer ← get
  match lexer.chars with
  | [] => readFinish
  | char :: rest =>
      let atLineStart := lexer.position.column = 0
      let alone := lexer.inFlow || endsWord rest
      if atLineStart && char = '%' then throw .noToken
      else if atLineStart && startsMarker lexer.chars then
        readMarker (if char = '-' then .documentStart else .documentEnd)
      else if char = '[' then readFlowStart .flowSequenceStart
      else if char = ']' then readFlowEnd .flowSequenceEnd
      else if char = '\x7b' then readFlowStart .flowMappingStart
      else if char = '\x7d' then readFlowEnd .flowMappingEnd
      else if char = ',' then readComma
      else if char = '-' && endsWord rest then readItem
      else if char = '?' && alone then readKey
      else if char = ':' && alone then readValue
      else if char = '!' then readTag
      else if char = '\'' then readQuoted .single
      else if char = '"' then readQuoted .double
      else if Plain.starts lexer.inFlow lexer.chars then readPlain
      else throw .noToken

/-- Moves to the next token and reads it. -/
def readNext : Lexing Unit := do
  skipToToken
  giveUpStaleKeys
  let lexer ← get
  if !lexer.inFlow then closeBlocks (lexer.position.column + 1)
  readToken
  giveUpStaleKeys

end Lexing

namespace Lexer

/-- How many tokens are settled: a key that is still possible may put others
before the tokens behind it. -/
def settled (lexer : Lexer) : Nat :=
  (lexer.keys.filterMap id).foldl (fun count key => min count key.tokensBefore)
    lexer.tokens.length

/-- All tokens, in the order of the text, up to the first problem. -/
def run : Nat → Lexer → List Token
  | 0, lexer => (.finish :: lexer.tokens).reverse
  | budget + 1, lexer =>
      match Lexing.readNext.run lexer with
      | .error problem => lexer.tokens.reverse.take lexer.settled ++ [.broken problem]
      | .ok ((), next) =>
          if next.tokens.head? = some .finish then next.tokens.reverse
          else run budget next

end Lexer

namespace Token

/-- The tokens of a text.  Every token but the last takes a character at least,
which bounds their number. -/
def ofChars (chars : List Char) : List Token :=
  Lexer.run (chars.length + 1) (.ofChars chars)

end Token

end Criteria.Yaml
