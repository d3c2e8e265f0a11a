import Criteria.Command.Options
import Criteria.Report.Record
import Criteria.Report.Text
import Criteria.Schema.Assembly
import Criteria.Source.Evaluation

/-!
# Responses

What the command line answers to its arguments: how it ends, what it prints, the
record that it writes, and the events that it reports.  A record is written
before anything is printed.
-/

namespace Criteria.Command

/-- Why a command breaks off without a message of its own. -/
inductive Breakdown where
  | unreadableSettings (error : ReadError)
  | refusedSettings
  | noSuchDatum
  | noWorkers
  /-- A file stands where a directory is needed for the record: the one that is to
  hold it, or one further up. -/
  | fileOnTheWay (nearest : Bool)
  deriving DecidableEq, Inhabited

/-- How a command ends. -/
inductive Ending where
  | done
  | undetermined
  | misused (error : UsageError)
  | notLoaded (message : String)
  | broken (breakdown : Breakdown)
  deriving DecidableEq, Inhabited

namespace Breakdown

def message : Breakdown → String
  | .unreadableSettings _ => "the settings cannot be read"
  | .refusedSettings => "the settings cannot be used"
  | .noSuchDatum => "a date or number of a file does not exist"
  | .noWorkers => "there must be at least one worker"
  | .fileOnTheWay _ => "a file stands where a directory is needed"

end Breakdown

namespace Ending

/-- What is to be said of an ending that is not as it should be. -/
def message? : Ending → Option String
  | .done => none
  | .undetermined => none
  | .misused error => some error.message
  | .notLoaded message => some message
  | .broken breakdown => some breakdown.message

def exitStatus : Ending → Nat
  | .done => 0
  | .undetermined => 2
  | .misused _ => 2
  | .notLoaded _ => 2
  | .broken _ => 1

end Ending

structure Response where
  ending : Ending
  output : String
  /-- The path and the text of the record. -/
  record : Option (String × String)
  events : List Event

namespace Response

/-- A response of a command that yields nothing. -/
def ofEnding (ending : Ending) : Response :=
  ⟨ending, "", none, []⟩

end Response

/-- The steps of a command, any of which may end it. -/
abbrev Work := Except Ending

namespace Options

/-- The file at a path, named by the path. -/
def sourceAt (files : Files) (path : String) : Work Source :=
  match files path with
  | none => .error (.misused (.noSuchFile path))
  | some .directory => .error (.misused (.isDirectory path))
  | some (.file bytes) => .ok ⟨Route.shown path, bytes⟩

/-- A record must not take the place of a directory. -/
def checkOutput (files : Files) : Option String → Work Unit
  | none => .ok ()
  | some path =>
      match files path with
      | some .directory => .error (.misused (.isDirectory path))
      | _ => .ok ()

/-- The settings in data; what counts as false stands for the defaults. -/
def settingsOfData (data : Value) : Work Settings :=
  match Settings.ofValue (if data.isTruthy then data else .mapping []) with
  | .ok settings => .ok settings
  | .error _ => .error (.broken .refusedSettings)

def settingsOf : Option Source → Work Settings
  | none => settingsOfData .null
  | some source =>
      match source.data with
      | .error error => .error (.broken (.unreadableSettings error))
      | .ok data => settingsOfData data

def ofSourceError : SourceError → Ending
  | .noWorkers => .broken .noWorkers
  | .load failure =>
      match failure.message? with
      | some message => .notLoaded message
      | none => .broken .noSuchDatum

/-- The directories for a record are made where they are missing, which files on
the way prevent. -/
def checkWay (files : Files) (path : String) : Work Unit :=
  let isFile (parent : String) : Bool :=
    match files parent with
    | some (.file _) => true
    | _ => false
  match Route.parents path with
  | [] => .ok ()
  | nearest :: others =>
      if isFile nearest then .error (.broken (.fileOnTheWay true))
      else if others.any isFile then .error (.broken (.fileOnTheWay false))
      else .ok ()

/-- The level of reports: the one given as an option, or that of the settings. -/
def reportLevel (options : Options) (settings : Settings) : String :=
  match options.level with
  | some level => if level = "" then settings.level else upperCase level
  | none => settings.level

/-- The text of an outcome in a format. -/
def rendered (outcome : Outcome) : Format → String
  | .text => outcome.renderText
  | .json => outcome.toJson.render

/-- Does what the options ask for. -/
def perform (options : Options) (files : Files) (present : Instant) (timestamp : String) :
    Work Response := do
  let specification ← sourceAt files options.specification
  let document ← sourceAt files options.document
  checkOutput files options.output
  let configuration ← options.configuration.mapM (sourceAt files)
  let settings ← settingsOf configuration
  let assembly := Assembly.ofEvaluation settings.evaluation present
  let run ←
    (evaluateSources assembly.engine assembly.maxWorkers specification document).mapError
      ofSourceError
  let record : Record := ⟨specification.name, document.name, timestamp, run.outcome⟩
  options.output.forM (checkWay files)
  return {
    ending :=
      if options.failOnUndetermined && !run.outcome.summary.fullyDetermined then .undetermined
      else .done
    output := rendered run.outcome options.format ++ "\n"
    record := options.output.map fun path => (path, record.toJson.render)
    events := Event.shown (options.reportLevel settings) run.events }

end Options

/-- The response to arguments. -/
def respond (files : Files) (present : Instant) (timestamp : String) (arguments : List String) :
    Response :=
  let work := do
    let options ← (Options.ofArguments arguments).mapError Ending.misused
    options.perform files present timestamp
  match work with
  | .ok response => response
  | .error ending => .ofEnding ending

end Criteria.Command
