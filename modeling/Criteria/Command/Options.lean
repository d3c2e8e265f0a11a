import Criteria.Command.Files

/-!
# Options

The options of the command line.  Those with a value take it from behind an
equals sign or from the next argument, whatever that looks like; of several
values the last one counts.
-/

namespace Criteria.Command

inductive Format where
  | text
  | json
  deriving DecidableEq, Inhabited

namespace Format

def name : Format → String
  | .text => "text"
  | .json => "json"

def ofName? (name : String) : Option Format :=
  [Format.text, .json].find? fun format => format.name = name

end Format

/-- Why arguments cannot be used. -/
inductive UsageError where
  | unknownOption (name : String)
  | missingValue (name : String)
  | unexpectedValue (name : String)
  | unexpectedArgument (text : String)
  | missingOption (name : String)
  | unknownFormat (text : String)
  | noSuchFile (path : String)
  | isDirectory (path : String)
  deriving DecidableEq, Inhabited

namespace UsageError

def message : UsageError → String
  | .unknownOption name => "no such option: " ++ name
  | .missingValue name => "option " ++ name ++ " needs a value"
  | .unexpectedValue name => "option " ++ name ++ " takes no value"
  | .unexpectedArgument text => "unexpected argument: " ++ text
  | .missingOption name => "missing option " ++ name
  | .unknownFormat text => "no such format: " ++ text
  | .noSuchFile path => "no such file: " ++ path
  | .isDirectory path => "is a directory: " ++ path

end UsageError

/-- The options that take a value. -/
inductive Setting where
  | specification
  | document
  | format
  | output
  | configuration
  | level
  deriving DecidableEq, Inhabited

namespace Setting

def name : Setting → String
  | .specification => "--spec"
  | .document => "--document"
  | .format => "--format"
  | .output => "--output"
  | .configuration => "--config"
  | .level => "--log-level"

def ofName? (name : String) : Option Setting :=
  [Setting.specification, .document, .format, .output, .configuration, .level].find?
    fun setting => setting.name = name

end Setting

/-- The option that makes an undetermined outcome a failure. -/
def failureFlag : String := "--fail-on-undetermined"

structure Options where
  specification : String
  document : String
  format : Format
  output : Option String
  configuration : Option String
  level : Option String
  failOnUndetermined : Bool

/-- The values of options in the order of the arguments, and whether the failure
flag is among these. -/
structure Given where
  values : List (Setting × String)
  failOnUndetermined : Bool

namespace Given

def value? (given : Given) (setting : Setting) : Option String :=
  (given.values.reverse.find? fun value => value.1 = setting).map Prod.snd

def required (given : Given) (setting : Setting) : Except UsageError String :=
  match given.value? setting with
  | some value => .ok value
  | none => .error (.missingOption setting.name)

def adding (given : Given) (setting : Setting) (value : String) : Given :=
  { given with values := (setting, value) :: given.values }

/-- The name of an option and the value behind its equals sign. -/
def parts (argument : String) : String × Option String :=
  let chars := argument.toList
  let name := String.ofList (chars.takeWhile (· ≠ '='))
  match chars.dropWhile (· ≠ '=') with
  | _ :: value => (name, some (String.ofList value))
  | [] => (name, none)

def isOption (argument : String) : Bool :=
  argument.toList.head? = some '-' && argument ≠ "-"

/-- Collects what is given.  After two dashes no option can follow. -/
def ofArguments : List String → Except UsageError Given
  | [] => .ok ⟨[], false⟩
  | argument :: rest =>
      let (name, value) := parts argument
      if argument = "--" then
        match rest with
        | [] => .ok ⟨[], false⟩
        | extra :: _ => .error (.unexpectedArgument extra)
      else if !isOption argument then .error (.unexpectedArgument argument)
      else
        match Setting.ofName? name, value, rest with
        | some setting, some value, rest => do
            return (← ofArguments rest).adding setting value
        | some setting, none, value :: rest => do
            return (← ofArguments rest).adding setting value
        | some _, none, [] => .error (.missingValue name)
        | none, value, rest =>
            if name ≠ failureFlag then .error (.unknownOption name)
            else if value.isSome then .error (.unexpectedValue name)
            else do
              let given ← ofArguments rest
              return { given with failOnUndetermined := true }

end Given

namespace Options

def readFormat : Option String → Except UsageError Format
  | none => .ok .text
  | some text =>
      match Format.ofName? text with
      | some format => .ok format
      | none => .error (.unknownFormat text)

def ofArguments (arguments : List String) : Except UsageError Options := do
  let given ← Given.ofArguments arguments
  return {
    specification := ← given.required .specification
    document := ← given.required .document
    format := ← readFormat (given.value? .format)
    output := (given.value? .output).map Route.resolved
    configuration := given.value? .configuration
    level := given.value? .level
    failOnUndetermined := given.failOnUndetermined }

/-- All paths at which a command with these options looks. -/
def paths (options : Options) : List String :=
  [options.specification, options.document] ++ options.configuration.toList
    ++ options.output.toList ++ (options.output.map Route.parents).getD []

end Options

end Criteria.Command
