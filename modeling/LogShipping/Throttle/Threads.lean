import LogShipping.Threads
import LogShipping.Throttle

/-!
A throttle used by many threads at once. Reading the clock, reading the time of the last report,
taking the interval, taking the drops and starting the interval again are one step each.
-/

namespace LogShipping.Throttle

inductive Point where
  | idle
  /-- A report is wanted, and the clock is to be read. -/
  | asked
  /-- The time of the last report is to be read. -/
  | timed (now : Nat)
  /-- A report is due, and the interval that began at `seen` is to be taken. -/
  | due (now seen : Nat)
  /-- The drops are to be taken. -/
  | claimed (now : Nat)
  /-- The drops are to be told. -/
  | taken (now : Nat) (count : UInt64)
  /-- A flush is to tell the drops. -/
  | flushing (count : UInt64)
  /-- A flush has told them, and the clock is to be read. -/
  | told
  /-- A flush is to start the interval again. -/
  | restarting (now : Nat)
  deriving DecidableEq

inductive Move where
  | recordDrop
  | report
  /-- Counts a drop, and is then bound to see whether a report is due. -/
  | drop
  | flush
  /-- Goes on with the call under way. The clock says `now`, if it is read. -/
  | resume (now : Nat)
  deriving DecidableEq

structure Report where
  count : UInt64
  /-- The time at which the interval was taken for it, if no flush gave it. -/
  claim : Option Nat
  deriving DecidableEq

structure Shared where
  throttle : Throttle
  drops : Nat
  /-- What the clock said, oldest first. -/
  readings : List Nat
  reports : List Report
  deriving DecidableEq

namespace Shared

def new (t : Throttle) : Shared :=
  ⟨t, 0, [], []⟩

def recordDrop (s : Shared) : Shared :=
  { s with throttle := s.throttle.recordDrop, drops := s.drops + 1 }

def read (now : Nat) (s : Shared) : Shared :=
  { s with readings := s.readings ++ [now] }

def tell (report : Report) (s : Shared) : Shared :=
  { s with reports := s.reports ++ [report] }

end Shared

def act (move : Move) (point : Point) (s : Shared) : Option (Point × Shared) :=
  match move, point with
  | .recordDrop, .idle => some (.idle, s.recordDrop)
  | .report, .idle => some (.asked, s)
  | .drop, .idle => some (.asked, s.recordDrop)
  | .flush, .idle =>
    let (count, throttle) := s.throttle.takeDropped
    some (if 0 < count then .flushing count else .idle, { s with throttle })
  | .resume now, .asked => some (.timed now, s.read now)
  | .resume _, .timed now =>
    let seen := s.throttle.lastReport
    some (if s.throttle.isDue now seen then .due now seen else .idle, s)
  | .resume _, .due now seen =>
    match s.throttle.claim? seen now with
    | some throttle => some (.claimed now, { s with throttle })
    | none => some (.idle, s)
  | .resume _, .claimed now =>
    let (count, throttle) := s.throttle.takeDropped
    some (if 0 < count then .taken now count else .idle, { s with throttle })
  | .resume _, .taken now count => some (.idle, s.tell ⟨count, some now⟩)
  | .resume _, .flushing count => some (.told, s.tell ⟨count, none⟩)
  | .resume now, .told => some (.restarting now, s.read now)
  | .resume _, .restarting now => some (.idle, { s with throttle := s.throttle.restart now })
  | _, _ => none

/-- The drops taken and not yet told. -/
def Point.carried : Point → Nat
  | taken _ count => count.toNat
  | flushing count => count.toNat
  | _ => 0

def Shared.toldDrops (s : Shared) : Nat :=
  (s.reports.map fun report => report.count.toNat).sum

/-- A call that nobody interrupts is the call as a whole. -/
theorem run_report (now : Nat) (s : Shared) :
    let next := ((Threads.start s .idle 1).run act
      ((0, .report) :: List.replicate 5 (0, .resume now))).shared
    (next.throttle, next.reports) =
      ((s.throttle.reportIfDue now).1,
        s.reports ++ ((s.throttle.reportIfDue now).2.map fun count => ⟨count, some now⟩).toList) := by
  by_cases hdue : s.throttle.isDue now s.throttle.lastReport <;>
    by_cases hcount : 0 < s.throttle.dropped <;>
      simp [Threads.start, Threads.step, List.replicate, act, reportIfDue, claim?, takeDropped,
        Shared.read, Shared.tell, hdue, hcount]

theorem run_flush (now : Nat) (s : Shared) :
    let next := ((Threads.start s .idle 1).run act
      ((0, .flush) :: List.replicate 3 (0, .resume now))).shared
    (next.throttle, next.reports) =
      ((s.throttle.flush now).1,
        s.reports ++ ((s.throttle.flush now).2.map fun count => ⟨count, none⟩).toList) := by
  by_cases hcount : 0 < s.throttle.dropped <;>
    simp [Threads.start, Threads.step, List.replicate, act, flush, restart, takeDropped,
      Shared.read, Shared.tell, hcount]

end LogShipping.Throttle
