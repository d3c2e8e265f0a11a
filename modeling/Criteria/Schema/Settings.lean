import Criteria.Number.Binary64
import Criteria.Schema.Issue
import Criteria.Text.Integer
import Criteria.Text.Numeral
import Criteria.Unicode.Casing

/-!
# Settings

The settings of an evaluation: how many workers it may use, how many patterns it
keeps, and from which level on it reports.  Settings that are not given have
their defaults; unknown ones are ignored.
-/

namespace Criteria

structure EvaluationSettings where
  maxWorkers : Option Int
  regexCacheSize : Option Int
  deriving DecidableEq, Inhabited

structure Settings where
  evaluation : EvaluationSettings
  level : String
  deriving DecidableEq, Inhabited

namespace Schema

/-- Leaves the zeros before a number out, with the underscores among them; a
zero that is all of the number stays. -/
def dropLeadingZeros : List Char → Option (List Char)
  | '0' :: rest =>
      let tail := rest.dropWhile fun char => char = '0' || char = '_'
      match tail with
      | [] => some [(('0' :: rest).getLast?).getD '0']
      | '.' :: _ =>
          let zeros := rest.takeWhile fun char => char = '0' || char = '_'
          some ((('0' :: zeros).getLast?).getD '0' :: tail)
      | char :: _ => if char.isDigit then some tail else none
  | char :: rest => if char.isDigit || char = '-' then some (char :: rest) else none
  | [] => none

/-- Leaves a point with nothing but zeros behind it out. -/
def dropZeroFraction (chars : List Char) : List Char :=
  match chars.dropWhile (· ≠ '.') with
  | '.' :: fraction => if fraction.all (· = '0') then chars.takeWhile (· ≠ '.') else chars
  | _ => chars

/-- A whole number in plain decimal notation, without a zero before it. -/
def plainInteger? (chars : List Char) : Option Int :=
  let (negative, digits) := match chars with
    | '-' :: rest => (true, rest)
    | rest => (false, rest)
  if digits.isEmpty || !digits.all Char.isDigit || (digits.head? = some '0' && 1 < digits.length)
  then none
  else some (Binary64.signed negative (numeral 10 digits))

/-- The number that a text writes, with room for spaces, a sign, underscores
between digits and an empty fraction. -/
def integerOfText? (text : String) : Option Int := do
  let chars := trimOuterSpace text.toList
  let unsigned := match chars with
    | '+' :: '-' :: _ => chars
    | '+' :: rest => rest
    | rest => rest
  let significant ← dropLeadingZeros unsigned
  plainInteger? (dropUnderscores (dropZeroFraction significant))

def readInteger (location : List Step) : Value → Checked Int
  | .boolean value => .ok (if value then 1 else 0)
  | .number (.integer value) => .ok value
  | .number (.binary (.finite negative steps)) =>
      if steps % Binary64.stepsPerUnit = 0 then
        .ok (Binary64.signed negative (steps / Binary64.stepsPerUnit))
      else refuse location .integerFraction
  | .number (.binary _) => refuse location .finiteNumber
  | .text written =>
      match integerOfText? written with
      | some value => .ok value
      | none => refuse location .integerText
  | _ => refuse location .integerType

/-- A number from one on; null stands for the default. -/
def readCount (location : List Step) (name : String) (entries : List (Key × Value)) :
    Checked (Option Int) :=
  let inside := location ++ [.name name]
  match field? name entries with
  | none => .ok none
  | some .null => .ok none
  | some value => do
      let count ← readInteger inside value
      if count < 1 then refuse inside .atLeastOne else .ok (some count)

def readEvaluation (location : List Step) : Value → Checked EvaluationSettings
  | .mapping entries =>
      match readCount location "max_workers" entries,
          readCount location "regex_cache_size" entries with
      | .ok maxWorkers, .ok regexCacheSize => .ok ⟨maxWorkers, regexCacheSize⟩
      | maxWorkers, regexCacheSize => .error (issuesOf maxWorkers ++ issuesOf regexCacheSize)
  | _ => refuse location (.modelType "EvaluationConfig")

/-- The level of reports, in capitals. -/
def readLevel (location : List Step) : Value → Checked String
  | .mapping entries =>
      match field? "level" entries with
      | none => .ok "INFO"
      | some value => upperCase <$> readText (location ++ [.name "level"]) value
  | _ => refuse location (.modelType "LoggingConfig")

/-- A part of the settings, which has its defaults if it is left out. -/
def readPart (read : List Step → Value → Checked α) (name : String)
    (entries : List (Key × Value)) : Checked α :=
  read [.name name] ((field? name entries).getD (.mapping []))

end Schema

namespace EvaluationSettings

/-- The settings that are given. -/
def toEntries (settings : EvaluationSettings) : List (Key × Value) :=
  let entry (name : String) (count : Option Int) : List (Key × Value) :=
    match count with
    | some count => [(.text name, .integer count)]
    | none => []
  entry "max_workers" settings.maxWorkers ++ entry "regex_cache_size" settings.regexCacheSize

/-- All settings, null standing for the ones that are not given. -/
def toValue (settings : EvaluationSettings) : Value :=
  let value (count : Option Int) : Value := (count.map Value.integer).getD .null
  .mapping [
    (.text "max_workers", value settings.maxWorkers),
    (.text "regex_cache_size", value settings.regexCacheSize)]

end EvaluationSettings

/-- Why settings cannot be used. -/
inductive SettingsError where
  | notMapping
  | issues (issues : List Schema.Issue)
  deriving DecidableEq

namespace SettingsError

/-- The text for settings that are no mapping at all. -/
def notMappingMessage : String := "Config must be a mapping"

end SettingsError

namespace Settings

def ofValue (data : Value) : Except SettingsError Settings :=
  match data with
  | .mapping entries =>
      match Schema.readPart Schema.readEvaluation "evaluation" entries,
          Schema.readPart Schema.readLevel "logging" entries with
      | .ok evaluation, .ok level => .ok ⟨evaluation, level⟩
      | evaluation, level =>
          .error (.issues (Schema.issuesOf evaluation ++ Schema.issuesOf level))
  | _ => .error .notMapping

def levelValue (settings : Settings) : Value :=
  .mapping [(.text "level", .text settings.level)]

/-- All settings with their values. -/
def toValue (settings : Settings) : Value :=
  .mapping [
    (.text "evaluation", settings.evaluation.toValue),
    (.text "logging", settings.levelValue)]

/-- The settings that are passed on to an evaluation, without what is not given. -/
def passedOn (settings : Settings) : Value :=
  let given := settings.evaluation.toEntries
  let evaluation := if given.isEmpty then [] else [(Key.text "evaluation", Value.mapping given)]
  .mapping (evaluation ++ [(.text "logging", settings.levelValue)])

end Settings

end Criteria
