import LogShipping.Gelf
import LogShipping.Time.Calendar

namespace LogShipping

abbrev Layout := Record → String

namespace Layout

def console : Layout :=
  Record.text

/-- Date and time in the zone set up, the host in parentheses, then the console line. -/
def dated (zone : Int) : Layout :=
  fun r => r.time.localText (zoneOffset zone) ++ " (" ++ r.origin.host ++ ") " ++ r.text

def gelf : Layout :=
  Gelf.encode

end Layout

end LogShipping
