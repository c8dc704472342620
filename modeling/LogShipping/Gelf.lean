import LogShipping.Json.Document
import LogShipping.Record

/-!
GELF 1.1: one JSON object per record. The process and every extra field become additional members,
whose names begin with an underscore.
-/

namespace LogShipping

namespace Gelf

def formatVersion : String := "1.1"

/-- Seconds since the epoch to the millisecond, as a double. -/
def timestamp (t : Moment) : Binary64 :=
  (Binary64.ofInt t.millis).divNat 1000

def header (r : Record) : Json.Document :=
  [("version", .text formatVersion),
    ("host", .text r.origin.host),
    ("short_message", .text r.message),
    ("timestamp", .real (timestamp r.time)),
    ("level", .whole r.severity.level),
    ("_process_id", .whole r.origin.processId.toNat),
    ("_process", .text r.origin.processName),
    ("_thread_id", .text r.thread)].foldl (fun d entry => d.put entry.1 entry.2) []

def memberName (key : String) : String :=
  "_" ++ key

/-- A real that is not finite has no number in JSON and is written as text. -/
def member : FieldValue → Json.Scalar
  | .text s => .text s
  | .whole n => .whole n.toInt
  | .real x => if (NumberStyle.document.finite? x).isSome then .real x else .text x.specialText

/-- Fields follow the header, so one named like a member of the process replaces that member. -/
def document (r : Record) : Json.Document :=
  r.fields.foldl (fun d entry => d.put (memberName entry.1) (member entry.2)) (header r)

def encode (r : Record) : String :=
  String.ofList (document r).render

theorem encode_ne_empty (r : Record) : encode r ≠ "" := by
  intro h
  have hchars := congrArg String.toList h
  simp [encode, Json.Document.render] at hchars

end Gelf

end LogShipping
