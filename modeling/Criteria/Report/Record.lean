import Criteria.Report.Payload

/-!
# Records

What is kept of an evaluation: its outcome together with the sources, the time
and the version of the program.
-/

namespace Criteria

def appVersion : String := "0.1.0"

structure Record where
  specification : String
  document : String
  timestamp : String
  outcome : Outcome

namespace Record

def metadata (record : Record) : Json :=
  .object [
    ("specification", .text record.specification),
    ("document", .text record.document),
    ("timestamp", .text record.timestamp),
    ("app_version", .text appVersion)]

def toJson (record : Record) : Json :=
  .object [("metadata", record.metadata), ("outcome", record.outcome.toJson)]

end Record

end Criteria
