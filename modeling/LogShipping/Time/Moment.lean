/-!
Points of calendar time: whole seconds since the epoch and nanoseconds within the second. In a leap
second the nanoseconds run on past `10 ^ 9`.
-/

namespace LogShipping

structure Moment where
  seconds : Int
  nanos : Nat
  deriving DecidableEq

namespace Moment

/-- Whole milliseconds since the epoch, rounded down also before it. -/
def millis (t : Moment) : Int :=
  t.seconds * 1000 + (t.nanos / 1000000 : Nat)

def inLeapSecond (t : Moment) : Bool :=
  1000000000 ≤ t.nanos

end Moment

end LogShipping
