import LogShipping.Sink.LineSink
import LogShipping.Threads
import Mathlib.Control.Monad.Basic

/-!
A sink used by many threads at once. Adding a record looks whether the sink is closed and hands the
line in afterwards, and closing the sink comes before its flush is handed in; each is a step of its
own, and so is every call of the device by the worker.
-/

namespace LogShipping.LineSink

structure Wait where
  tick : Tick
  timeout : Span
  deriving DecidableEq

inductive Point where
  | idle
  /-- The sink was open, and the record's line is to be handed in. -/
  | cleared (r : Record)
  /-- The sink has been closed, and its last flush is to be handed in. -/
  | shut (wait : Wait)
  | waiting (ticket : Nat) (closes : Bool)
  deriving DecidableEq

inductive Move where
  | add (r : Record)
  | flush (wait : Wait)
  | close (wait : Wait)
  /-- Goes on with the call under way. -/
  | resume
  /-- The time of a flush is up. -/
  | giveUp
  deriving DecidableEq

inductive Outcome where
  | added (r : Record) (result : Except Refusal Unit)
  | flushed (succeeded : Bool)
  | closed (succeeded : Bool)
  deriving DecidableEq

structure Shared (μ : Type) where
  sink : LineSink μ
  /-- How calls have ended so far, oldest first. -/
  outcomes : List Outcome

namespace Shared

variable {μ : Type}

def new (sink : LineSink μ) : Shared μ :=
  ⟨sink, []⟩

def finish (outcome : Outcome) (s : Shared μ) : Shared μ :=
  { s with outcomes := s.outcomes ++ [outcome] }

/-- Hands a flush in. One that cannot wait is over before it began. -/
def askFlush (now : Nat) (wait : Wait) (closes : Bool) (s : Shared μ) : Point × Shared μ :=
  let (sink, ticket) := s.sink.askFlush now wait.tick wait.timeout
  (match ticket with
    | some ticket => .waiting ticket closes
    | none => .idle,
    { s with sink })

end Shared

def Outcome.ofWait (closes succeeded : Bool) : Outcome :=
  if closes then .closed succeeded else .flushed succeeded

variable {μ : Type}

/-- Counting a refusal and the report that may follow are one step here, and so is the report that a
flush makes. Their own steps are those of `Throttle.act`. -/
def callStep (now : Nat) (move : Move) (point : Point) (s : Shared μ) : Option (Point × Shared μ) :=
  match move, point with
  | .add r, .idle =>
    some (if s.sink.closed then (.idle, s.finish (.added r (.error .closed))) else (.cleared r, s))
  | .resume, .cleared r =>
    match s.sink.submit? r with
    | some sink => some (.idle, { s with sink }.finish (.added r (.ok ())))
    | none =>
      some (.idle, { s with sink := s.sink.countRefusal now }.finish (.added r (.error .queueFull)))
  | .flush wait, .idle => some (s.askFlush now wait false)
  | .close wait, .idle => some (.shut wait, { s with sink := s.sink.shut })
  | .resume, .shut wait => some (s.askFlush now wait true)
  | .resume, .waiting ticket closes =>
    (s.sink.answer? ticket).map fun ok => (.idle, s.finish (.ofWait closes ok))
  | .giveUp, .waiting _ closes => some (.idle, s.finish (.ofWait closes false))
  | _, _ => none

inductive Turn where
  | caller (i now : Nat) (move : Move)
  | worker
  deriving DecidableEq

def Turn.take [Device μ] (turn : Turn) (s : Threads (Shared μ) Point) :
    Threads (Shared μ) Point :=
  match turn with
  | caller i now move => s.step (callStep now) i move
  | worker =>
    match s.shared.sink.work? with
    | some sink => { s with shared := { s.shared with sink } }
    | none => s

def runTurns [Device μ] (turns : List Turn) (s : Threads (Shared μ) Point) :
    Threads (Shared μ) Point :=
  turns.foldl (fun s turn => Turn.take turn s) s

/-- A record that nobody interrupts is added as a whole. -/
theorem runTurns_add [Device μ] (now : Nat) (r : Record) (s : Shared μ) :
    let next := (runTurns [.caller 0 now (.add r), .caller 0 now .resume] (.start s .idle 1)).shared
    (next.sink, next.outcomes) =
      ((s.sink.add now r).1, s.outcomes ++ [.added r (s.sink.add now r).2]) := by
  by_cases hclosed : s.sink.closed
  · simp [runTurns, Turn.take, Threads.start, Threads.step, callStep, LineSink.add, hclosed,
      Shared.finish]
  · cases h : s.sink.submit? r <;>
      simp [runTurns, Turn.take, Threads.start, Threads.step, callStep, LineSink.add, hclosed,
        h, Shared.finish]

end LogShipping.LineSink
