import Criteria.Pattern.Node
import Criteria.Value.Literal

/-!
# Malformed patterns

What can be wrong with the text of a pattern, where, and in which words it is
reported.
-/

namespace Criteria.Pattern

inductive Problem where
  | badEscape (escape : String)
  | danglingEscape
  | incompleteEscape (escape : String)
  | octalEscapeRange (escape : String)
  | missingBrace
  | missingCharacterName
  | unknownCharacterName (name : String)
  | unterminatedSet
  | badRange (first last : String)
  | nothingToRepeat
  | multipleRepeat
  | repeatBounds
  | unbalancedParenthesis
  | unterminatedGroup
  | unterminatedComment
  | unexpectedEnd
  | missingGroupName
  | unterminatedName (terminator : Char)
  | badGroupName (name : String)
  | unknownGroupName (name : String)
  | redefinedGroupName (name : String) (group earlier : Nat)
  | badGroupNumber
  | invalidReference (group : Nat)
  | openReference
  | lookBehindReference
  | tooManyBranches
  | unknownExtension (text : String)
  | misplacedModes
  | localeMode
  | incompatibleModes
  | missingModeEnd
  | unknownMode
  | missingMode
  | missingColon
  | globalModeOn
  | globalModeOff
  | typeModeOff
  | contradictoryModes
  | lookBehindWidth
  | lookBehindTooLong
  | templateRepetition (eagerness : Eagerness)
  deriving DecidableEq

namespace Problem

def message : Problem → String
  | .badEscape escape => "bad escape " ++ escape
  | .danglingEscape => "bad escape (end of pattern)"
  | .incompleteEscape escape => "incomplete escape " ++ escape
  | .octalEscapeRange escape =>
      "octal escape value " ++ escape ++ " outside of range 0-0o377"
  | .missingBrace => "missing \x7b"
  | .missingCharacterName => "missing character name"
  | .unknownCharacterName name => "undefined character name " ++ Literal.ofText name
  | .unterminatedSet => "unterminated character set"
  | .badRange first last => "bad character range " ++ first ++ "-" ++ last
  | .nothingToRepeat => "nothing to repeat"
  | .multipleRepeat => "multiple repeat"
  | .repeatBounds => "min repeat greater than max repeat"
  | .unbalancedParenthesis => "unbalanced parenthesis"
  | .unterminatedGroup => "missing ), unterminated subpattern"
  | .unterminatedComment => "missing ), unterminated comment"
  | .unexpectedEnd => "unexpected end of pattern"
  | .missingGroupName => "missing group name"
  | .unterminatedName terminator =>
      "missing " ++ String.singleton terminator ++ ", unterminated name"
  | .badGroupName name => "bad character in group name " ++ Literal.ofText name
  | .unknownGroupName name => "unknown group name " ++ Literal.ofText name
  | .redefinedGroupName name group earlier =>
      "redefinition of group name " ++ Literal.ofText name ++ " as group " ++ toString group
        ++ "; was group " ++ toString earlier
  | .badGroupNumber => "bad group number"
  | .invalidReference group => "invalid group reference " ++ toString group
  | .openReference => "cannot refer to an open group"
  | .lookBehindReference =>
      "cannot refer to group defined in the same lookbehind subpattern"
  | .tooManyBranches => "conditional backref with more than two branches"
  | .unknownExtension text => "unknown extension ?" ++ text
  | .misplacedModes => "global flags not at the start of the expression"
  | .localeMode => "bad inline flags: cannot use 'L' flag with a str pattern"
  | .incompatibleModes => "bad inline flags: flags 'a', 'u' and 'L' are incompatible"
  | .missingModeEnd => "missing -, : or )"
  | .unknownMode => "unknown flag"
  | .missingMode => "missing flag"
  | .missingColon => "missing :"
  | .globalModeOn => "bad inline flags: cannot turn on global flag"
  | .globalModeOff => "bad inline flags: cannot turn off global flag"
  | .typeModeOff => "bad inline flags: cannot turn off flags 'a', 'u' and 'L'"
  | .contradictoryModes => "bad inline flags: flag turned on and off"
  | .lookBehindWidth => "look-behind requires fixed-width pattern"
  | .lookBehindTooLong => "looks too much behind"
  | .templateRepetition eagerness =>
      "internal: unsupported template operator " ++ eagerness.operatorName

end Problem

/-- A problem and the place in the pattern where it was noticed. -/
structure Malformation where
  problem : Problem
  position : Option Nat
  deriving DecidableEq

/-- Why a pattern cannot be used.  A malformed one is reported as such; one that
counts too far, or in numbers of too many digits, or is put both into the ASCII and
into the Unicode mode, is not. -/
inductive Rejection where
  | malformed (malformation : Malformation)
  | repeatCountTooLarge
  | repeatCountTooLong
  | incompatibleModes
  deriving DecidableEq

namespace Malformation

/-- The line and the column of a position, both counted from one. -/
def lineAndColumn (chars : List Char) (position : Nat) : Nat × Nat :=
  let past := chars.take position
  let lastLine := past.reverse.takeWhile (· ≠ '\n')
  (past.count '\n' + 1, lastLine.length + 1)

/-- The report on a pattern; lines are named only if there are several. -/
def message (malformation : Malformation) (pattern : String) : String :=
  match malformation.position with
  | none => malformation.problem.message
  | some position =>
      let chars := pattern.toList
      let place := malformation.problem.message ++ " at position " ++ toString position
      if chars.contains '\n' then
        let (line, column) := lineAndColumn chars position
        place ++ " (line " ++ toString line ++ ", column " ++ toString column ++ ")"
      else place

end Malformation

end Criteria.Pattern
