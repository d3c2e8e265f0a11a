import Criteria.Pattern.Node
import Criteria.Pattern.Problem
import Criteria.Text.Integer
import Criteria.Text.Numeral
import Criteria.Unicode.CharacterNames
import Criteria.Unicode.Name

/-!
# Reading patterns

A pattern is read token by token; a backslash and the character after it make
one token.  Reading yields the tree of the pattern and the number of its
groups, or the first problem.  Modes at the start of the pattern hold for all of
it, modes in a group for the group.
-/

namespace Criteria.Pattern

structure Token where
  escaped : Bool
  char : Char
  deriving DecidableEq

namespace Token

def length (token : Token) : Nat :=
  if token.escaped then 2 else 1

def chars (token : Token) : List Char :=
  if token.escaped then ['\\', token.char] else [token.char]

def text (token : Token) : String :=
  String.ofList token.chars

def isPlain (token : Token) (char : Char) : Bool :=
  !token.escaped && token.char = char

def isOneOf (token : Token) (chars : List Char) : Bool :=
  !token.escaped && chars.contains token.char

end Token

/-- The tokens of a pattern, and whether a backslash dangles at its end. -/
def tokenize : List Char → List Token × Bool
  | [] => ([], false)
  | '\\' :: [] => ([], true)
  | '\\' :: char :: rest =>
      let (tokens, dangling) := tokenize rest
      (⟨true, char⟩ :: tokens, dangling)
  | char :: rest =>
      let (tokens, dangling) := tokenize rest
      (⟨false, char⟩ :: tokens, dangling)

/-- What is known while a pattern is read: the names of characters, the tokens ahead
and their position, the modes that hold for all of the pattern and the letters that
turned them on, the widths of the groups closed so far, their names, and how many
groups there were when the look-behind began that is being read. -/
structure ReaderState where
  names : CharacterNames
  tokens : List Token
  position : Nat
  dangling : Bool
  modes : Modes
  modeLetters : List Char
  groups : List (Option Width)
  groupNames : List (String × Nat)
  lookBehindGroups : Option Nat
  awaited : List (Nat × Nat)

abbrev Reader := StateT ReaderState (Except Rejection)

namespace Reader

def failAt (position : Nat) (problem : Problem) : Reader α :=
  throw (.malformed ⟨problem, some position⟩)

/-- Reports a problem so many characters before the next token. -/
def failBefore (characters : Nat) (problem : Problem) : Reader α := do
  failAt ((← get).position - characters) problem

def fail (problem : Problem) : Reader α :=
  failBefore 0 problem

def peek : Reader (Option Token) := do
  return (← get).tokens.head?

/-- A dangling backslash is noticed when it would be the next token. -/
def noticeDangling : Reader Unit := do
  let state ← get
  if state.tokens.isEmpty && state.dangling then
    failAt state.position .danglingEscape

/-- Moves past some of the tokens ahead. -/
def skip (count : Nat) : Reader Unit := do
  modify fun state =>
    { state with
      tokens := state.tokens.drop count
      position := (state.tokens.take count).foldl (fun position token => position + token.length)
        state.position }
  if count ≠ 0 then noticeDangling

def next : Reader (Option Token) := do
  let token ← peek
  if token.isSome then skip 1
  return token

/-- Moves past a character if it comes next. -/
def accept (char : Char) : Reader Bool := do
  match (← peek) with
  | some token => if token.isPlain char then skip 1; return true else return false
  | none => return false

/-- The plain characters ahead that satisfy a test, at most so many. -/
def takeChars (atMost : Nat) (test : Char → Bool) : Reader (List Char) := do
  let tokens := (← get).tokens
  let taken := (tokens.take atMost).takeWhile fun token => !token.escaped && test token.char
  skip taken.length
  return taken.map Token.char

def takeAllChars (test : Char → Bool) : Reader (List Char) := do
  takeChars (← get).tokens.length test

/-- The text up to a terminator, which is passed too. -/
def takeName (terminator : Char) (missing : Problem) : Reader String := do
  let tokens := (← get).tokens
  let inside := tokens.takeWhile fun token => !token.isPlain terminator
  let name := inside.flatMap Token.chars
  if inside.length = tokens.length then
    skip tokens.length
    if name.isEmpty then fail missing
    else failBefore name.length (.unterminatedName terminator)
  else
    skip (inside.length + 1)
    if name.isEmpty then failBefore 1 missing
    else return String.ofList name

end Reader

open Reader

/-- The code point of an escape with a fixed number of hexadecimal digits. -/
def readHexEscape (letter : Char) (count : Nat) : Reader Nat := do
  let digits ← takeChars count isHexDigit
  let escape := '\\' :: letter :: digits
  if digits.length ≠ count then
    failBefore escape.length (.incompleteEscape (String.ofList escape))
  let code := numeral 16 digits
  if 0x10FFFF < code then
    failBefore escape.length (.badEscape (String.ofList escape))
  return code

/-- The code point of an octal escape, whose digits are all known. -/
def octalCode (digits : List Char) : Reader Nat := do
  let code := numeral 8 digits
  if 255 < code then
    failBefore (digits.length + 1) (.octalEscapeRange (String.ofList ('\\' :: digits)))
  return code

/-- The control characters with an escape of one letter. -/
def controlCode? : Char → Option Nat
  | 'a' => some 7
  | 'b' => some 8
  | 'f' => some 12
  | 'n' => some 10
  | 'r' => some 13
  | 't' => some 9
  | 'v' => some 11
  | '\\' => some 92
  | _ => none

def category? : Char → Option SetItem
  | 'd' => some (.category .digit false)
  | 'D' => some (.category .digit true)
  | 's' => some (.category .space false)
  | 'S' => some (.category .space true)
  | 'w' => some (.category .word false)
  | 'W' => some (.category .word true)
  | _ => none

def badEscape (char : Char) : Reader α :=
  failBefore 2 (.badEscape (String.ofList ['\\', char]))

/-- The code point of an escape that names a character in braces. -/
def readNameEscape : Reader Nat := do
  if !(← accept '\x7b') then fail .missingBrace
  let name ← takeName '\x7d' .missingCharacterName
  match (← get).names.code? name with
  | some code => return code
  | none => failBefore (name.length + 4) (.unknownCharacterName name)

/-- An escape by its code or its name, or of a character that needs none. -/
def readCodeEscape (char : Char) : Reader Nat := do
  if char = 'x' then readHexEscape 'x' 2
  else if char = 'u' then readHexEscape 'u' 4
  else if char = 'U' then readHexEscape 'U' 8
  else if char = 'N' then readNameEscape
  else if char.isAlpha then badEscape char
  else return char.toNat

/-- What an escape stands for in a character set. -/
def readSetEscape (char : Char) : Reader SetItem := do
  match controlCode? char, category? char with
  | some code, _ => return .literal code
  | none, some item => return item
  | none, none =>
      if isOctalDigit char then
        let digits ← takeChars 2 isOctalDigit
        return .literal (← octalCode (char :: digits))
      else if char.isDigit then badEscape char
      else return .literal (← readCodeEscape char)

def readSetMember (token : Token) : Reader SetItem := do
  if token.escaped then readSetEscape token.char else return .literal token.char.toNat

/-- Reads the members of a set up to its closing bracket, which may also be the
first member; `here` is where the set began. -/
def readSetMembers (here : Nat) : Nat → List SetItem → Reader (List SetItem)
  | 0, _ => failAt here .unterminatedSet
  | budget + 1, members => do
      let some first ← next | failAt here .unterminatedSet
      if first.isPlain ']' && !members.isEmpty then return members
      let low ← readSetMember first
      if ← accept '-' then
        let some last ← next | failAt here .unterminatedSet
        if last.isPlain ']' then return members ++ [low, .literal 45]
        let high ← readSetMember last
        let badRange := failBefore (first.length + 1 + last.length)
          (.badRange first.text last.text)
        match low, high with
        | .literal lowCode, .literal highCode =>
            if highCode < lowCode then badRange
            else readSetMembers here budget (members ++ [.range lowCode highCode])
        | _, _ => badRange
      else readSetMembers here budget (members ++ [low])

def readSet (modes : Modes) : Reader Node := do
  let state ← get
  let negated ← accept '^'
  let items ← readSetMembers (state.position - 1) (state.tokens.length + 1) []
  return .character ⟨negated, items, modes⟩

/-- A piece of a sequence, as far as it matters to a quantifier behind it. -/
inductive Piece where
  | plain (node : Node)
  | anchor (anchor : Anchor)
  | repeated (node : Node)

namespace Piece

def node : Piece → Node
  | .plain content => content
  | .anchor place => .anchor place
  | .repeated content => content

end Piece

/-- The node of a sequence whose pieces are given last to first. -/
def sequenceOf (pieces : List Piece) : Node :=
  pieces.foldl
    (fun rest piece =>
      match rest with
      | .empty => piece.node
      | rest => .sequence piece.node rest)
    .empty

def literalPiece (modes : Modes) (code : Nat) : Piece :=
  .plain (.character ⟨false, [.literal code], modes⟩)

/-- A reference from inside a look-behind must lead out of it. -/
def checkLookBehindReference (group : Nat) : Reader Unit := do
  let state ← get
  match state.lookBehindGroups with
  | none => return
  | some groups =>
      match state.groups[group]? with
      | some (some _) => if groups ≤ group then fail .lookBehindReference
      | _ => fail .openReference

/-- A reference to a group that is closed. -/
def referencePiece (modes : Modes) (group characters : Nat) : Reader Piece := do
  match (← get).groups[group]? with
  | some (some width) =>
      checkLookBehindReference group
      return .plain (.reference group width modes)
  | _ => failBefore characters .openReference

/-- An escape that begins with a digit other than zero: an octal code of three
digits, or a reference of one or two. -/
def readNumberEscape (modes : Modes) (first : Char) : Reader Piece := do
  let more ← takeChars 1 Char.isDigit
  let digits := first :: more
  let third ← peek
  let isCode := digits.length = 2 && digits.all isOctalDigit
    && (third.map fun token => !token.escaped && isOctalDigit token.char).getD false
  if isCode then
    let last ← takeChars 1 isOctalDigit
    return literalPiece modes (← octalCode (digits ++ last))
  else
    let group := numeral 10 digits
    if group < (← get).groups.length then
      referencePiece modes group (digits.length + 1)
    else failBefore digits.length (.invalidReference group)

/-- What an escape outside of sets stands for. -/
def readEscape (modes : Modes) (char : Char) : Reader Piece := do
  match char, category? char with
  | 'A', _ => return .anchor .textStart
  | 'Z', _ => return .anchor .textEnd
  | 'b', _ => return .anchor (.wordBoundary false modes.ascii)
  | 'B', _ => return .anchor (.wordBoundary true modes.ascii)
  | _, some item => return .plain (.character ⟨false, [item], modes⟩)
  | _, none =>
      match controlCode? char with
      | some code => return literalPiece modes code
      | none =>
          if char = '0' then
            let digits ← takeChars 2 isOctalDigit
            return literalPiece modes (numeral 8 digits)
          else if char.isDigit then readNumberEscape modes char
          else return literalPiece modes (← readCodeEscape char)

/-- The number that no bound of a repetition may reach. -/
def repeatLimit : Nat := Nat.pow 2 32 - 1

/-- The bound of a repetition that is written in these digits. -/
def repeatCount (digits : List Char) : Except Rejection Nat :=
  if digitLimit < digits.length then .error .repeatCountTooLong
  else if repeatLimit ≤ numeral 10 digits then .error .repeatCountTooLarge
  else .ok (numeral 10 digits)

/-- The bounds of a quantifier; in braces they may be something else than a
quantifier, and then nothing is read. -/
def readBounds (quantifier : Char) : Reader (Option (Nat × Option Nat)) := do
  match quantifier with
  | '?' => return some (0, some 1)
  | '*' => return some (0, none)
  | '+' => return some (1, none)
  | _ =>
      let start ← get
      if (start.tokens.head?.map (·.isPlain '}')).getD false then return none
      let low ← takeAllChars Char.isDigit
      let high ← if ← accept ',' then takeAllChars Char.isDigit else pure low
      if !(← accept '}') then
        set start
        return none
      let least ← repeatCount low
      if high.isEmpty then return some (least, none)
      let most ← repeatCount high
      if most < least then failAt start.position .repeatBounds
      return some (least, some most)

/-- The mark after a quantifier that tells how it is to be tried. -/
def readEagerness : Reader Eagerness := do
  if ← accept '?' then return .lazy
  else if ← accept '+' then return .possessive
  else return .greedy

/-- Applies a quantifier to the last piece. -/
def readQuantifier (modes : Modes) (quantifier : Char) (pieces : List Piece) :
    Reader (List Piece) := do
  let here := (← get).position - 1
  match (← readBounds quantifier) with
  | none => return literalPiece modes quantifier.toNat :: pieces
  | some (least, most) =>
      match pieces with
      | .plain node :: earlier =>
          let eagerness ← readEagerness
          return .repeated (.repetition node least most eagerness) :: earlier
      | .repeated _ :: _ => failAt here .multipleRepeat
      | _ => failAt here .nothingToRepeat

/-- The letters of modes, some of which cannot be used. -/
def isModeLetter (char : Char) : Bool :=
  ['i', 'L', 'm', 's', 'x', 'a', 't', 'u'].contains char

/-- The letters of which only one can be in force. -/
def isTypeLetter (char : Char) : Bool :=
  ['L', 'a', 'u'].contains char

def Modes.turn (on : Bool) (modes : Modes) : Char → Modes
  | 'i' => { modes with ignoreCase := on }
  | 'm' => { modes with multiline := on }
  | 's' => { modes with dotAll := on }
  | 'x' => { modes with verbose := on }
  | 'a' => { modes with ascii := on }
  | 'u' => { modes with ascii := !on }
  | _ => modes

/-- The letter that follows another mode letter, or the mark that ends them. -/
def nextModeToken (ends : List Char) (missing : Problem) : Reader Char := do
  let some token ← next | fail missing
  if token.isOneOf ends then return token.char
  if !token.escaped && isModeLetter token.char then return token.char
  failBefore token.length
    (if !token.escaped && isLetter token.char then .unknownMode else missing)

/-- Reads letters of modes to turn on, from a first one, up to the mark that ends
them. -/
def readModesOn : Nat → Char → List Char → Reader (List Char × Char)
  | 0, _, _ => fail .missingModeEnd
  | budget + 1, letter, letters => do
      if letter = 'L' then fail .localeMode
      let letters := letters ++ [letter]
      if isTypeLetter letter && letters.any fun other => isTypeLetter other && other ≠ letter then
        fail .incompatibleModes
      let char ← nextModeToken [')', '-', ':'] .missingModeEnd
      if isModeLetter char then readModesOn budget char letters
      else return (letters, char)

/-- Reads letters of modes to turn off, from a first one, up to the colon. -/
def readModesOff : Nat → Char → List Char → Reader (List Char)
  | 0, _, _ => fail .missingColon
  | budget + 1, letter, letters => do
      if isTypeLetter letter then fail .typeModeOff
      let letters := letters ++ [letter]
      let char ← nextModeToken [':'] .missingColon
      if isModeLetter char then readModesOff budget char letters
      else return letters

/-- Modes for the rest of the pattern, or modes on and off for a group. -/
inductive ModeChange where
  | everywhere (on : List Char)
  | within (on off : List Char)

def readModes (first : Char) : Reader ModeChange := do
  let budget := (← get).tokens.length + 1
  let (on, ending) ← if first = '-' then pure ([], '-') else readModesOn budget first []
  if ending = ')' then return .everywhere on
  if on.contains 't' then failBefore 1 .globalModeOn
  if ending = ':' then return .within on []
  let letter ← nextModeToken [] .missingMode
  let off ← readModesOff budget letter []
  if off.contains 't' then failBefore 1 .globalModeOff
  if on.any off.contains then failBefore 1 .contradictoryModes
  return .within on off

def Modes.change (modes : Modes) (on off : List Char) : Modes :=
  off.foldl (Modes.turn false) (on.foldl (Modes.turn true) modes)

/-- Opens a group and gives its number. -/
def openGroup (name : Option String) : Reader Nat := do
  let state ← get
  let group := state.groups.length
  match name with
  | none => set { state with groups := state.groups ++ [none] }
  | some name =>
      match state.groupNames.find? (·.1 = name) with
      | some (_, earlier) =>
          failBefore (name.length + 1) (.redefinedGroupName name group earlier)
      | none =>
          set { state with
            groups := state.groups ++ [none]
            groupNames := state.groupNames ++ [(name, group)] }
  return group

def closeGroup (group : Nat) (width : Width) : Reader Unit :=
  modify fun state => { state with groups := state.groups.set group (some width) }

def checkGroupName (name : String) : Reader Unit := do
  if !isName name.toList then failBefore (name.length + 1) (.badGroupName name)

def namedGroup (name : String) : Reader Nat := do
  match (← get).groupNames.find? (·.1 = name) with
  | some (_, group) => return group
  | none => failBefore (name.length + 1) (.unknownGroupName name)

/-- Passes the rest of a comment in a group that began at `start`. -/
def skipGroupComment (start : Nat) : Reader Unit := do
  let tokens := (← get).tokens
  let inside := tokens.takeWhile fun token => !token.isPlain ')'
  if inside.length = tokens.length then
    skip tokens.length
    failAt start .unterminatedComment
  else skip (inside.length + 1)

/-- Passes the rest of a line. -/
def skipLine : Reader Unit := do
  let tokens := (← get).tokens
  skip ((tokens.takeWhile fun token => !token.isPlain '\n').length + 1)

/-- The number that no group may reach. -/
def groupLimit : Nat := Nat.pow 2 30 - 1

/-- The group that a condition asks about, by its name or its number. -/
def readCondition : Reader Nat := do
  let name ← takeName ')' .missingGroupName
  let position := (← get).position
  if isName name.toList then namedGroup name
  else
    match wholeNumber? name.toList with
    | some (.ofNat group) =>
        if group = 0 then failBefore (name.length + 1) .badGroupNumber
        if groupLimit ≤ group then failBefore (name.length + 1) (.invalidReference group)
        modify fun state =>
          { state with awaited := state.awaited ++ [(group, position - name.length - 1)] }
        return group
    | _ => failBefore (name.length + 1) (.badGroupName name)

/-- How the inside of a group becomes a node. -/
inductive GroupKind where
  | capturing (name : Option String)
  | plain (on off : List Char)
  | atomic
  | look (behind negated : Bool)
  | conditional

/-- What a parenthesis begins: a group, something already complete, or modes for
the rest of the pattern. -/
inductive Opening where
  | group (kind : GroupKind)
  | piece (piece : Piece)
  | comment
  | everywhere (on : List Char)

/-- Reads what follows the letter `P`: a name for a group, or a reference to one. -/
def readNamed (modes : Modes) : Reader Opening := do
  if ← accept '<' then
    let name ← takeName '>' .missingGroupName
    checkGroupName name
    return .group (.capturing (some name))
  else if ← accept '=' then
    let name ← takeName ')' .missingGroupName
    checkGroupName name
    let group ← namedGroup name
    return .piece (← referencePiece modes group (name.length + 1))
  else
    let some token ← next | fail .unexpectedEnd
    failBefore (token.length + 2) (.unknownExtension ("P" ++ token.text))

/-- Reads what follows a parenthesis that began at `start`. -/
def readOpening (modes : Modes) (start : Nat) : Reader Opening := do
  if !(← accept '?') then return .group (.capturing none)
  let some token ← next | fail .unexpectedEnd
  let unknown := failBefore (token.length + 1) (.unknownExtension token.text)
  if token.escaped then unknown
  else
    match token.char with
    | 'P' => readNamed modes
    | ':' => return .group (.plain [] [])
    | '#' =>
        skipGroupComment start
        return .comment
    | '=' => return .group (.look false false)
    | '!' => return .group (.look false true)
    | '<' =>
        let some side ← next | fail .unexpectedEnd
        if side.isPlain '=' then return .group (.look true false)
        else if side.isPlain '!' then return .group (.look true true)
        else failBefore (side.length + 2) (.unknownExtension ("<" ++ side.text))
    | '(' => return .group .conditional
    | '>' => return .group .atomic
    | char =>
        if char = '-' || isModeLetter char then
          match (← readModes char) with
          | .everywhere on => return .everywhere on
          | .within on off => return .group (.plain on off)
        else unknown

/-- Where a sequence stands: the modes in force, and whether modes for all of the
pattern may still come. -/
structure Context where
  modes : Modes
  atTop : Bool
  first : Bool

def expectClosing (start : Nat) : Reader Unit := do
  if !(← accept ')') then failAt start .unterminatedGroup

def isPatternSpace (char : Char) : Bool :=
  [' ', '\t', '\n', '\r', '\x0b', '\x0c'].contains char

mutual

/-- Reads alternatives up to a closing parenthesis or the end. -/
def readAlternatives (budget : Nat) (context : Context) : Reader Node :=
  match budget with
  | 0 => fail .unexpectedEnd
  | budget + 1 => do
      let pieces ← readSequence budget context []
      let node := sequenceOf pieces
      if ← accept '|' then
        let state ← get
        let modes := if context.atTop then state.modes else context.modes
        let others ← readAlternatives budget ⟨modes, context.atTop, false⟩
        return .choice node others
      else return node
termination_by structural budget

/-- Reads pieces up to a bar, a closing parenthesis or the end, last piece
first. -/
def readSequence (budget : Nat) (context : Context) (pieces : List Piece) :
    Reader (List Piece) :=
  match budget with
  | 0 => fail .unexpectedEnd
  | budget + 1 => do
      let some token ← peek | return pieces
      if token.isOneOf ['|', ')'] then return pieces
      let start := (← get).position
      skip 1
      let modes := context.modes
      if modes.verbose && !token.escaped && isPatternSpace token.char then
        readSequence budget context pieces
      else if modes.verbose && token.isPlain '#' then
        skipLine
        readSequence budget context pieces
      else if token.escaped then
        let piece ← readEscape modes token.char
        readSequence budget context (piece :: pieces)
      else
        match token.char with
        | '[' =>
            let set ← readSet modes
            readSequence budget context (.plain set :: pieces)
        | '.' => readSequence budget context (.plain (.character (.any modes)) :: pieces)
        | '^' =>
            let anchor := if modes.multiline then Anchor.lineStart else .textStart
            readSequence budget context (.anchor anchor :: pieces)
        | '$' =>
            let anchor := if modes.multiline then Anchor.lineEnd else .lastLineEnd
            readSequence budget context (.anchor anchor :: pieces)
        | '(' =>
            match (← readOpening modes start) with
            | .comment => readSequence budget context pieces
            | .piece piece => readSequence budget context (piece :: pieces)
            | .everywhere on =>
                if !context.first || !pieces.isEmpty then failAt start .misplacedModes
                let state ← get
                let changed := state.modes.change on []
                set { state with modes := changed, modeLetters := state.modeLetters ++ on }
                readSequence budget { context with modes := changed } pieces
            | .group kind =>
                let node ← readGroup budget modes start kind
                readSequence budget context (.plain node :: pieces)
        | char =>
            if ['*', '+', '?', '\x7b'].contains char then
              let pieces ← readQuantifier modes char pieces
              readSequence budget context pieces
            else readSequence budget context (literalPiece modes char.toNat :: pieces)
termination_by structural budget

/-- Reads the inside of a group and its closing parenthesis. -/
def readGroup (budget : Nat) (modes : Modes) (start : Nat) (kind : GroupKind) : Reader Node :=
  match budget with
  | 0 => fail .unexpectedEnd
  | budget + 1 => do
      match kind with
      | .capturing name =>
          let group ← openGroup name
          let node ← readAlternatives budget ⟨modes, false, false⟩
          expectClosing start
          closeGroup group node.width
          return .group group node
      | .plain on off =>
          let node ← readAlternatives budget ⟨modes.change on off, false, false⟩
          expectClosing start
          return node
      | .atomic =>
          let node ← readAlternatives budget ⟨modes, false, false⟩
          expectClosing start
          return .atomic node
      | .look behind negated =>
          let outer := (← get).lookBehindGroups
          if behind && outer.isNone then
            modify fun state => { state with lookBehindGroups := some state.groups.length }
          let node ← readAlternatives budget ⟨modes, false, false⟩
          if behind && outer.isNone then
            modify fun state => { state with lookBehindGroups := none }
          expectClosing start
          return if behind then .lookBehind negated node else .lookAhead negated node
      | .conditional =>
          let group ← readCondition
          checkLookBehindReference group
          let matched := sequenceOf (← readSequence budget ⟨modes, false, false⟩ [])
          let unmatched ←
            if ← accept '|' then
              let pieces ← readSequence budget ⟨modes, false, false⟩ []
              if ((← peek).map (·.isPlain '|')).getD false then fail .tooManyBranches
              pure (sequenceOf pieces)
            else pure Node.empty
          expectClosing start
          return .conditional group matched unmatched
termination_by structural budget

end

/-- Reads all of a pattern: its tree and the number of its groups.  Modes that
exclude each other are noticed within one parenthesis when they are read, and
across several only here. -/
def readPattern : Reader (Node × Nat) := do
  noticeDangling
  let budget := 3 * (← get).tokens.length + 3
  let node ← readAlternatives budget ⟨.none, true, true⟩
  let state ← get
  if state.modeLetters.contains 'a' && state.modeLetters.contains 'u' then
    throw .incompatibleModes
  if !state.tokens.isEmpty then fail .unbalancedParenthesis
  match state.awaited.find? fun awaited => state.groups.length ≤ awaited.1 with
  | some (group, position) => failAt position (.invalidReference group)
  | none => return (node, state.groups.length - 1)

/-- A pattern that can be searched for. -/
structure Compiled where
  node : Node
  groups : Nat

/-- A look-behind must know how far to step back, and nothing is repeated in a template. -/
def checkDemand (template : Bool) : Demand → Except Rejection Unit
  | .fixedWidth width =>
      if repeatLimit < width.least then .error (.malformed ⟨.lookBehindTooLong, none⟩)
      else if width.least ≠ width.most then .error (.malformed ⟨.lookBehindWidth, none⟩)
      else .ok ()
  | .repeatable eagerness =>
      if template then .error (.malformed ⟨.templateRepetition eagerness, none⟩) else .ok ()

/-- Makes a pattern ready for search; `names` are those of the characters. -/
def compile (names : CharacterNames) (pattern : String) : Except Rejection Compiled := do
  let (tokens, dangling) := tokenize pattern.toList
  let ((node, groups), state) ← readPattern.run
    { names := names
      tokens := tokens
      position := 0
      dangling := dangling
      modes := .none
      modeLetters := []
      groups := [none]
      groupNames := []
      lookBehindGroups := none
      awaited := [] }
  node.demands.forM (checkDemand (state.modeLetters.contains 't'))
  return ⟨node, groups⟩

end Criteria.Pattern
