/-!
Rate-limited reports of drops. Drops are counted, and a report tells their number and starts the
count again. A report is due when an interval has passed since the last one; a report asked for by a
flush is given at once.

Clock readings are milliseconds since the epoch and come from outside. The last report of a new
throttle lies one interval back, or at the epoch if that is later.
-/

namespace LogShipping

structure Throttle where
  interval : Nat
  lastReport : Nat
  dropped : UInt64
  deriving DecidableEq

namespace Throttle

/-- Intervals are kept in a word of milliseconds, and longer ones are cut to the longest. -/
def longestInterval : Nat := UInt64.size - 1

def standardInterval : Nat := 5000

def new (intervalMillis now : Nat) : Throttle :=
  let interval := min intervalMillis longestInterval
  { interval, lastReport := now - interval, dropped := 0 }

/-! The indivisible steps. -/

def recordDrop (t : Throttle) : Throttle :=
  { t with dropped := t.dropped + 1 }

def isDue (now seen : Nat) (t : Throttle) : Bool :=
  t.interval ≤ now - seen

/-- Takes the interval that began at `seen` for a report at `now`, unless another call has taken it
since `seen` was read. -/
def claim? (seen now : Nat) (t : Throttle) : Option Throttle :=
  if t.lastReport = seen then some { t with lastReport := now } else none

def takeDropped (t : Throttle) : UInt64 × Throttle :=
  (t.dropped, { t with dropped := 0 })

def restart (now : Nat) (t : Throttle) : Throttle :=
  { t with lastReport := now }

/-! The calls, each run without interruption. A report carries the number of drops. -/

/-- Reports if the interval has passed, and then takes the interval even with nothing to report. -/
def reportIfDue (now : Nat) (t : Throttle) : Throttle × Option UInt64 :=
  if t.isDue now t.lastReport then
    match t.claim? t.lastReport now with
    | none => (t, none)
    | some t =>
      let (count, t) := t.takeDropped
      (t, if 0 < count then some count else none)
  else (t, none)

/-- Reports whatever was dropped. Only a report starts the interval again. -/
def flush (now : Nat) (t : Throttle) : Throttle × Option UInt64 :=
  let (count, t) := t.takeDropped
  if 0 < count then (t.restart now, some count) else (t, none)

def drop (now : Nat) (t : Throttle) : Throttle × Option UInt64 :=
  t.recordDrop.reportIfDue now

end Throttle

end LogShipping
