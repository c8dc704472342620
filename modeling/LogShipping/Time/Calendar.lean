import LogShipping.Numeric.Decimal
import LogShipping.Time.Moment

namespace LogShipping

structure Date where
  year : Int
  month : Nat
  day : Nat
  deriving DecidableEq

namespace Date

/-- The date `days` days after 1970-01-01. Years are counted from March, so that the leap day ends
a year, and in spans of 400 years, which all have 146097 days. -/
def ofDays (days : Int) : Date :=
  let shifted := days + 719468
  let span := shifted.fdiv 146097
  let dayOfSpan := (shifted.fmod 146097).toNat
  let yearOfSpan :=
    (dayOfSpan - dayOfSpan / 1460 + dayOfSpan / 36524 - dayOfSpan / 146096) / 365
  let dayOfYear := dayOfSpan - (365 * yearOfSpan + yearOfSpan / 4 - yearOfSpan / 100)
  let marchMonth := (5 * dayOfYear + 2) / 153
  let month := if marchMonth < 10 then marchMonth + 3 else marchMonth - 9
  { year := span * 400 + yearOfSpan + if month ≤ 2 then 1 else 0
    month
    day := dayOfYear - (153 * marchMonth + 2) / 5 + 1 }

/-- Four digits at least; a year outside 0 to 9999 also has its sign. -/
def yearText (year : Int) : String :=
  if year < 0 then "-" ++ paddedText 4 year.natAbs
  else if year < 10000 then paddedText 4 year.natAbs
  else "+" ++ paddedText 4 year.natAbs

def text (d : Date) : String :=
  yearText d.year ++ "-" ++ paddedText 2 d.month ++ "-" ++ paddedText 2 d.day

end Date

/-- The minutes east of Greenwich of a zone set up so. No zone is a day away, and a setting that says
so is void: it means Greenwich. -/
def zoneOffset (setting : Int) : Int :=
  if setting.natAbs < 1440 then setting else 0

namespace Moment

/-- Date and time of day at `offset` minutes east of Greenwich. A leap second is the sixtieth of
its minute, so only its seconds exceed 59. -/
def localText (offset : Int) (t : Moment) : String :=
  let seconds := t.seconds + 60 * offset
  let ofDay := (seconds.fmod 86400).toNat
  let second := ofDay % 60 + if t.inLeapSecond then 1 else 0
  (Date.ofDays (seconds.fdiv 86400)).text ++ " " ++
    paddedText 2 (ofDay / 3600) ++ ":" ++
    paddedText 2 (ofDay / 60 % 60) ++ ":" ++
    paddedText 2 second

end Moment

end LogShipping
