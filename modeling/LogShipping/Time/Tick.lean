import LogShipping.Time.Span

/-!
Readings of a clock that never goes backwards, and deadlines reckoned from them. The seconds of a
reading fill a signed word, so a deadline too far ahead has no reading.
-/

namespace LogShipping

structure Tick where
  seconds : Int
  nanos : Nat
  deriving DecidableEq

namespace Tick

def start : Tick := ⟨0, 0⟩

def lastSecond : Int := 0x7fffffffffffffff

def add? (t : Tick) (span : Span) : Option Tick :=
  let nanos := t.nanos + span.nanos
  let seconds := t.seconds + span.seconds + (nanos / 1000000000 : Nat)
  if seconds ≤ lastSecond then some ⟨seconds, nanos % 1000000000⟩ else none

def reaches (t deadline : Tick) : Bool :=
  deadline.seconds < t.seconds || (deadline.seconds == t.seconds && deadline.nanos ≤ t.nanos)

end Tick

end LogShipping
