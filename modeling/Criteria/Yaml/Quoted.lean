import Criteria.Text.Numeral
import Criteria.Yaml.Character
import Criteria.Yaml.Problem

/-!
# Quoted scalars

Between single quotes only a quote is special, which is written twice; between
double quotes a backslash begins an escape.  Line ends are folded together with
the blanks around them.
-/

namespace Criteria.Yaml

namespace Quoted

inductive Style where
  | single
  | double
  deriving DecidableEq

/-- The blanks and line ends after a line end; a border of documents must not
come between quotes. -/
def laterBreaks (lineStart : Bool) :
    List Char → Except Problem (List Char × List Char)
  | [] => .ok ([], [])
  | char :: rest =>
      if lineStart && startsMarker (char :: rest) then .error .noToken
      else if char = ' ' || char = '\t' then laterBreaks false rest
      else if isBreak char then do
        let (breaks, rest) ← laterBreaks true rest
        return (plainBreak char :: breaks, rest)
      else .ok ([], char :: rest)

/-- Blanks within a line stay; a line end is folded with those that follow. -/
def blanks (chars : List Char) : Except Problem (List Char × List Char) :=
  let isSpace (char : Char) : Bool := char = ' ' || char = '\t'
  match chars.dropWhile isSpace with
  | [] => .error .noToken
  | char :: rest =>
      if isBreak char then do
        let (breaks, rest) ← laterBreaks true rest
        return (folded (plainBreak char) breaks, rest)
      else .ok (chars.takeWhile isSpace, char :: rest)

/-- The characters that a single letter stands for after a backslash. -/
def escapedChar? (char : Char) : Option Char :=
  match char with
  | '0' => some '\x00'
  | 'a' => some '\x07'
  | 'b' => some '\x08'
  | 't' => some '\t'
  | '\t' => some '\t'
  | 'n' => some '\n'
  | 'v' => some '\x0b'
  | 'f' => some '\x0c'
  | 'r' => some '\r'
  | 'e' => some '\x1b'
  | ' ' => some ' '
  | '"' => some '"'
  | '\\' => some '\\'
  | '/' => some '/'
  | 'N' => some '\x85'
  | '_' => some '\xa0'
  | 'L' => some '\u2028'
  | 'P' => some '\u2029'
  | _ => none

/-- How many hexadecimal digits follow a letter after a backslash. -/
def codeLength? (char : Char) : Option Nat :=
  match char with
  | 'x' => some 2
  | 'u' => some 4
  | 'U' => some 8
  | _ => none

/-- The character with a code; not every number is the code of one. -/
def charOfCode (code : Nat) : Except Problem Char :=
  if code.isValidChar then .ok (Char.ofNat code) else .error .noSuchDatum

/-- What a backslash and the characters after it stand for. -/
def escape (chars : List Char) : Except Problem (List Char × List Char) :=
  match chars with
  | [] => .error .noToken
  | char :: rest =>
      match escapedChar? char, codeLength? char with
      | some escaped, _ => .ok ([escaped], rest)
      | none, some length =>
          let digits := rest.take length
          if digits.length = length && digits.all isHexDigit then do
            return ([← charOfCode (numeral 16 digits)], rest.drop length)
          else .error .noToken
      | none, none => if isBreak char then laterBreaks true rest else .error .noToken

/-- The next part of a quoted text, or nothing at its closing quote. -/
def part (style : Style) (chars : List Char) : Except Problem (Option (List Char) × List Char) :=
  match chars, style with
  | '\'' :: '\'' :: rest, .single => .ok (some ['\''], rest)
  | '\'' :: rest, .single => .ok (none, rest)
  | '"' :: rest, .double => .ok (none, rest)
  | '\\' :: rest, .double => do
      let (text, rest) ← escape rest
      return (some text, rest)
  | chars, _ =>
      match chars with
      | [] => .error .noToken
      | char :: rest =>
          if endsWord [char] then do
            let (text, rest) ← blanks chars
            return (some text, rest)
          else .ok (some [char], rest)

def readFrom (style : Style) : Nat → List Char → Except Problem (List Char × List Char)
  | 0, _ => .error .noToken
  | budget + 1, chars => do
      let (text, rest) ← part style chars
      match text with
      | none => return ([], rest)
      | some text => do
          let (further, rest) ← readFrom style budget rest
          return (text ++ further, rest)

/-- The text of a quoted scalar, given what stands behind its opening quote, and
what follows. -/
def read (style : Style) (chars : List Char) : Except Problem (List Char × List Char) :=
  readFrom style chars.length chars

end Quoted

end Criteria.Yaml
