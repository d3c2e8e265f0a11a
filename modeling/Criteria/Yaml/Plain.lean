import Criteria.Yaml.Character

/-!
# Plain scalars

Scalars without quotes: words separated by spaces, over as many lines as are
indented far enough.
-/

namespace Criteria.Yaml

namespace Plain

/-- Whether a plain scalar may begin here. -/
def starts (inFlow : Bool) : List Char → Bool
  | [] => false
  | char :: rest =>
      let indicators := "-?:,[]\x7b\x7d#&*!|>'\"%@\x60".toList
      !endsWord [char] && (!indicators.contains char
        || (!endsWord rest && (char = '-' || (!inFlow && (char = '?' || char = ':')))))

/-- A collection set by brackets goes on or ends here. -/
def startsFlowMark : List Char → Bool
  | [] => false
  | char :: _ => isFlowMark char

/-- Whether a word ends before a character, given what follows it: at a blank, at
the colon after a key, and between brackets at their marks. -/
def endsBefore (inFlow : Bool) (char : Char) (rest : List Char) : Bool :=
  endsWord [char]
    || (char = ':' && (endsWord rest || (inFlow && startsFlowMark rest)))
    || (inFlow && (isFlowMark char || char = '?'))

/-- A word and what follows it. -/
def word (inFlow : Bool) : List Char → List Char × List Char
  | [] => ([], [])
  | char :: rest =>
      if endsBefore inFlow char rest then ([], char :: rest)
      else
        let (chars, rest) := word inFlow rest
        (char :: chars, rest)

/-- Line ends and indentation: the line ends, the column that is reached, and
what follows.  Nothing is passed beyond a border of documents. -/
structure Lines where
  breaks : List Char
  column : Nat
  atMarker : Bool
  rest : List Char

def lines (column : Nat) : List Char → Lines
  | [] => ⟨[], column, false, []⟩
  | char :: rest =>
      if char = ' ' then lines (column + 1) rest
      else if isBreak char then
        if startsMarker rest then ⟨[plainBreak char], 0, true, rest⟩
        else
          let further := lines 0 rest
          { further with breaks := plainBreak char :: further.breaks }
      else ⟨[], column, false, char :: rest⟩

/-- What stands between two words; nothing if the scalar ends here. -/
structure Gap where
  text : List Char
  crossesLine : Bool
  rest : List Char

/-- The gap after a word, for scalars whose lines begin at a margin. -/
def gap (inFlow : Bool) (margin : Nat) (chars : List Char) : Gap :=
  let spaces := chars.takeWhile (· = ' ')
  let lines := lines 0 (chars.dropWhile (· = ' '))
  match lines.breaks with
  | [] => ⟨spaces, false, chars.dropWhile (· = ' ')⟩
  | first :: others =>
      let ends := lines.atMarker || (!inFlow && lines.column < margin)
      ⟨if ends then [] else folded first others, true, lines.rest⟩

/-- What follows a word of a scalar: the rest of its text, whether it ends on a
line of its own, and the characters behind it. -/
def afterWord (inFlow : Bool) (margin : Nat) :
    Nat → List Char → List Char × Bool × List Char
  | 0, chars => ([], false, chars)
  | budget + 1, chars =>
      let gap := gap inFlow margin chars
      let ending := ([], gap.crossesLine, gap.rest)
      if gap.text.isEmpty || gap.rest.head? = some '#' then ending
      else
        match word inFlow gap.rest with
        | ([], _) => ending
        | (next, rest) =>
            let (text, crossesLine, rest) := afterWord inFlow margin budget rest
            (gap.text ++ next ++ text, crossesLine, rest)

/-- A plain scalar, whether the line after it has been reached, and what follows. -/
def read (inFlow : Bool) (margin : Nat) (chars : List Char) :
    List Char × Bool × List Char :=
  let (first, rest) := word inFlow chars
  let (text, crossesLine, rest) := afterWord inFlow margin rest.length rest
  (first ++ text, crossesLine, rest)

end Plain

end Criteria.Yaml
