import Criteria.Command.Response
import Criteria.Report.Event
import Std.Time.Date.PlainDate
import Std.Time.DateTime.Timestamp

/-!
# The command line

Evaluates the specification in one file on the document in another, as the
arguments ask.
-/

namespace Criteria.Command

/-- What stands at a path now. -/
def entryNow (path : String) : IO (Option Entry) := do
  try
    let place ← IO.FS.realPath path
    if (← place.isDir) then return some .directory
    return some (.file (← IO.FS.readBinFile path).toList)
  catch _ => return none

/-- The microseconds since the start of 1970. -/
def microsecondsNow : IO Int := do
  let now ← Std.Time.Timestamp.now
  return now.toNanosecondsSinceUnixEpoch.val / 1000

/-- The notation of a time in universal time. -/
def timestampText (microseconds : Int) : String :=
  let day := Std.Time.PlainDate.ofEpochDay ⟨microseconds / 86400000000⟩
  let time := (microseconds % 86400000000).toNat
  let seconds := time / 1000000
  let date := Date.ofParts? day.year.toInt.toNat day.month.val.toNat day.day.val.toNat
  let timeOfDay := TimeOfDay.ofParts? (seconds / 3600) (seconds / 60 % 60) (seconds % 60)
    (time % 1000000)
  match date, timeOfDay with
  | some date, some timeOfDay => date.isoText ++ "T" ++ timeOfDay.isoText ++ "Z"
  | _, _ => ""

/-- Writes a text to a path and makes the directories for it. -/
def writeText (path text : String) : IO Unit := do
  match Route.parents path with
  | nearest :: _ => IO.FS.createDirAll nearest
  | [] => pure ()
  IO.FS.writeFile path text

def run (arguments : List String) : IO UInt32 := do
  let paths := match Options.ofArguments arguments with
    | .ok options => options.paths
    | .error _ => []
  let entries ← paths.mapM fun path => do return (path, ← entryNow path)
  let files : Files := fun path => (entries.find? fun entry => entry.1 = path).bind Prod.snd
  let present ← microsecondsNow
  let response := respond files ⟨present, 0⟩ (timestampText present) arguments
  for event in response.events do
    IO.eprintln event.toJson.line
  match response.record with
  | some (path, text) => writeText path text
  | none => pure ()
  IO.print response.output
  match response.ending.message? with
  | some message => IO.eprintln message
  | none => pure ()
  return UInt32.ofNat response.ending.exitStatus

end Criteria.Command

def main (arguments : List String) : IO UInt32 :=
  Criteria.Command.run arguments
