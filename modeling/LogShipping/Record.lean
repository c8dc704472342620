import LogShipping.Record.Fields
import LogShipping.Severity
import LogShipping.Time.Moment

/-!
Log records. A `Draft` is what the logging thread captures at the call; completing it adds where the
program runs and the fields that every record carries.
-/

namespace LogShipping

structure Origin where
  host : String
  processId : UInt32
  processName : String
  deriving DecidableEq

structure Record where
  severity : Severity
  message : String
  origin : Origin
  thread : String
  time : Moment
  fields : Fields
  deriving DecidableEq

namespace Record

def text (r : Record) : String :=
  r.severity.label ++ ": " ++ r.message

def field? (r : Record) (key : String) : Option FieldValue :=
  r.fields.find? key

end Record

structure Draft where
  severity : Severity
  message : String
  thread : String
  time : Moment
  fields : Fields
  deriving DecidableEq

/-- The draft's own fields are set over the base fields one by one, so that they win. -/
def Draft.complete (draft : Draft) (origin : Origin) (base : Fields) : Record where
  severity := draft.severity
  message := draft.message
  origin
  thread := draft.thread
  time := draft.time
  fields := Fields.setAll draft.fields base

end LogShipping
