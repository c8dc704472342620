import LogShipping.Threads
import LogShipping.Worker.History

/-!
A worker that many threads use, from its start until it has been dropped. To hand something in takes
two steps, a place in the counter and then the order itself, and so does taking it out: the worker
gives the place back after it has the order in its hands. A barrier is an order as well, a signal
for which its caller waits.

The owner can drop the worker when no call is under way. The drop hands in the stop and waits until
the worker has come to its end.
-/

namespace LogShipping.Worker

variable {J σ : Type}

/-- What is handed in: a job, or the signal that a barrier waits for. -/
inductive Order (J : Type) where
  | job (job : J)
  | signal (ticket : Nat)
  deriving DecidableEq

/-- What the jobs work on, and the tickets of the signals that have been given. -/
structure Floor (σ : Type) where
  scene : σ
  signals : List Nat
  deriving DecidableEq

namespace Order

def ticket? : Order J → Option Nat
  | .job _ => none
  | .signal ticket => some ticket

def act (act : J → σ → Progress J σ) (order : Order J) (floor : Floor σ) :
    Progress (Order J) (Floor σ) :=
  match order with
  | .job j =>
    match act j floor.scene with
    | .finished scene => .finished { floor with scene }
    | .left rest scene => .left (.job rest) { floor with scene }
    | .waiting => .waiting
    | .panicked scene => .panicked { floor with scene }
  | .signal ticket => .finished { floor with signals := floor.signals ++ [ticket] }

end Order

inductive Point (J : Type) where
  | idle
  /-- The order has its place in the counter, and is to be stored. -/
  | counted (order : Order J)
  | waiting (ticket : Nat)
  deriving DecidableEq

def Point.isIdle : Point J → Bool
  | idle => true
  | _ => false

inductive Move (J : Type) where
  | submit (job : J)
  /-- Submits the job unless `limit` orders wait. -/
  | trySubmit (limit : Nat) (job : J)
  | barrier
  /-- Goes on with the call under way. -/
  | resume
  /-- The time of a barrier is up. -/
  | giveUp
  deriving DecidableEq

inductive Outcome (J : Type) where
  | submitted (job : J)
  | rejected (job : J)
  | passed (ticket : Nat) (reached : Bool)
  deriving DecidableEq

structure Shared (J σ : Type) where
  worker : Worker (Order J)
  /-- What the worker has taken out, and not given its place back. -/
  withdrawn : Option (Backlog.Entry (Task (Order J)))
  floor : Floor σ
  tickets : Nat
  /-- Everything that callers have stored so far, oldest first. -/
  admitted : List (Order J)
  /-- How calls have ended so far, oldest first. -/
  outcomes : List (Outcome J)
  deriving DecidableEq

namespace Shared

def new (scene : σ) : Shared J σ where
  worker := .new
  withdrawn := none
  floor := ⟨scene, []⟩
  tickets := 0
  admitted := []
  outcomes := []

def onBacklog (f : Backlog (Task (Order J)) → Backlog (Task (Order J))) (s : Shared J σ) :
    Shared J σ :=
  { s with worker := { s.worker with backlog := f s.worker.backlog } }

def finish (outcome : Outcome J) (s : Shared J σ) : Shared J σ :=
  { s with outcomes := s.outcomes ++ [outcome] }

def store (order : Order J) (s : Shared J σ) : Shared J σ :=
  { s.onBacklog (.store ⟨.run order, true⟩) with admitted := s.admitted ++ [order] }

/-- A stored job is left to the worker, and a stored signal is waited for. -/
def handIn (order : Order J) (s : Shared J σ) : Point J × Shared J σ :=
  match order with
  | .job job => (.idle, (s.store order).finish (.submitted job))
  | .signal ticket => (.waiting ticket, s.store order)

end Shared

def Task.activity : Task J → Activity J
  | run job => .busy job
  | stop => .stopped

def callStep (move : Move J) (point : Point J) (s : Shared J σ) : Option (Point J × Shared J σ) :=
  match move, point with
  | .submit job, .idle => some (.counted (.job job), s.onBacklog .count)
  | .trySubmit limit job, .idle =>
    match s.worker.backlog.admit? limit with
    | some backlog => some (.counted (.job job), s.onBacklog fun _ => backlog)
    | none => some (.idle, s.finish (.rejected job))
  | .barrier, .idle =>
    some (.counted (.signal s.tickets), { s.onBacklog .count with tickets := s.tickets + 1 })
  | .resume, .counted order => some (s.handIn order)
  | .resume, .waiting ticket =>
    if s.floor.signals.contains ticket then some (.idle, s.finish (.passed ticket true)) else none
  | .giveUp, .waiting ticket => some (.idle, s.finish (.passed ticket false))
  | _, _ => none

/-- One step of the worker: take something out, give its place back and begin it, or go on. -/
def Shared.work? (act : J → σ → Progress J σ) (s : Shared J σ) : Option (Shared J σ) :=
  match s.withdrawn, s.worker.activity with
  | some entry, _ =>
    some { s with
      worker := ⟨s.worker.backlog.discount entry, entry.item.activity⟩
      withdrawn := none }
  | none, .idle =>
    s.worker.backlog.take?.map fun (entry, backlog) =>
      { s with worker := { s.worker with backlog }, withdrawn := some entry }
  | none, _ =>
    (s.worker.step? (Order.act act) s.floor).map fun (worker, floor) => { s with worker, floor }

/-- What the owner does with a worker. -/
inductive Tenure where
  | held
  /-- The stop has its place in the counter, and is to be stored. -/
  | leaving
  /-- The owner waits for the end of the worker. -/
  | joining
  | ended (panicked : Bool)
  deriving DecidableEq

structure Service (J σ : Type) where
  threads : Threads (Shared J σ) (Point J)
  history : History (Order J) (Floor σ)
  tenure : Tenure
  /-- What has been told to the program's own log, oldest first. -/
  journal : List String

namespace Service

inductive Event (J σ : Type) where
  | call (i : Nat) (move : Move J)
  | work
  /-- The owner begins to drop the worker, or goes on with it. -/
  | drop
  | scene (change : σ → σ)

def start (scene : σ) (callers : Nat) : Service J σ where
  threads := .start (.new scene) .idle callers
  history := .empty
  tenure := .held
  journal := []

def shared (s : Service J σ) : Shared J σ :=
  s.threads.shared

def worker (s : Service J σ) : Worker (Order J) :=
  s.shared.worker

def onShared (f : Shared J σ → Shared J σ) (s : Service J σ) : Service J σ :=
  { s with threads := { s.threads with shared := f s.threads.shared } }

def finished (s : Service J σ) : List (Order J) :=
  s.history.shifts.map Shift.job

/-- What the worker has begun: the last of it may be at hand still, or may have panicked. -/
def started (s : Service J σ) : List (Order J) :=
  s.finished ++ (s.history.begun.map Prod.fst).toList

def upcoming (s : Service J σ) : List (Order J) :=
  (s.shared.withdrawn.bind fun entry => entry.item.job?).toList ++ s.worker.jobs

def outcomes (s : Service J σ) : List (Outcome J) :=
  s.shared.outcomes

/-- Whether no call is under way, so that the worker may be dropped. -/
def isFree (s : Service J σ) : Bool :=
  s.threads.points.all Point.isIdle

/-- No call is between its two steps, and neither is the worker or the owner. -/
structure IsQuiet (s : Service J σ) : Prop where
  calls : ∀ order, .counted order ∉ s.threads.points
  worker : s.shared.withdrawn = none
  owner : s.tenure = .held

def drop (s : Service J σ) : Service J σ :=
  match s.tenure with
  | .held =>
    if s.isFree then { s.onShared (.onBacklog .count) with tenure := .leaving } else s
  | .leaving => { s.onShared (.onBacklog (.store ⟨.stop, true⟩)) with tenure := .joining }
  | .joining =>
    match s.worker.activity with
    | .stopped => { s with tenure := .ended false }
    | .crashed => { s with tenure := .ended true, journal := s.journal ++ [crashNotice] }
    | _ => s
  | .ended _ => s

def call (i : Nat) (move : Move J) (s : Service J σ) : Service J σ :=
  if s.tenure = .held then { s with threads := s.threads.step callStep i move } else s

def work (act : J → σ → Progress J σ) (s : Service J σ) : Service J σ :=
  match s.shared.work? act with
  | some shared =>
    { s.onShared fun _ => shared with history := s.history.next shared.worker shared.floor }
  | none => s

def step (act : J → σ → Progress J σ) (event : Event J σ) (s : Service J σ) : Service J σ :=
  match event with
  | .call i move => s.call i move
  | .work => s.work act
  | .drop => s.drop
  | .scene change =>
    s.onShared fun shared => { shared with
      floor := { shared.floor with scene := change shared.floor.scene } }

def run (act : J → σ → Progress J σ) (events : List (Event J σ)) (s : Service J σ) :
    Service J σ :=
  events.foldl (fun s event => s.step act event) s

def Event.isWork : Event J σ → Bool
  | .work => true
  | _ => false

theorem run_append (act : J → σ → Progress J σ) (first second : List (Event J σ))
    (s : Service J σ) : s.run act (first ++ second) = (s.run act first).run act second := by
  simp [run]

theorem run_induction {act : J → σ → Progress J σ} {P : Service J σ → Prop}
    (keep : ∀ s event, P s → P (s.step act event)) (events : List (Event J σ)) {s : Service J σ}
    (h : P s) : P (s.run act events) :=
  List.foldlRecOn events _ h fun s h event _ => keep s event h

end Service

/-- A job that nobody interrupts is submitted as a whole. -/
theorem run_submit (job : J) (s : Shared J σ) :
    ((Threads.start s .idle 1).run callStep [(0, .submit job), (0, .resume)]).shared =
      { s with
        worker := s.worker.submit (.job job)
        admitted := s.admitted ++ [.job job]
        outcomes := s.outcomes ++ [.submitted job] } :=
  rfl

theorem run_trySubmit (limit : Nat) (job : J) (s : Shared J σ) :
    ((Threads.start s .idle 1).run callStep [(0, .trySubmit limit job), (0, .resume)]).shared =
      match s.worker.trySubmit? limit (.job job) with
      | some worker =>
        { s with
          worker
          admitted := s.admitted ++ [.job job]
          outcomes := s.outcomes ++ [.submitted job] }
      | none => s.finish (.rejected job) := by
  by_cases hroom : s.worker.backlog.size < limit
  · simp [Threads.start, Threads.step, callStep, Backlog.admit?, hroom, trySubmit?,
      Backlog.tryPush?, Shared.handIn, Shared.store, Shared.onBacklog, Shared.finish]
  · simp [Threads.start, Threads.step, callStep, Backlog.admit?, hroom, trySubmit?,
      Backlog.tryPush?, Shared.finish]

theorem run_barrier (s : Shared J σ) :
    (Threads.start s .idle 1).run callStep [(0, .barrier), (0, .resume)] =
      ⟨{ s with
          worker := s.worker.submit (.signal s.tickets)
          tickets := s.tickets + 1
          admitted := s.admitted ++ [.signal s.tickets] },
        [.waiting s.tickets]⟩ :=
  rfl

/-- A drop that nobody interrupts retires the worker, and then waits. -/
theorem Service.run_drop_drop (act : J → σ → Progress J σ) {s : Service J σ}
    (hheld : s.tenure = .held) (hfree : s.isFree = true) :
    s.run act [.drop, .drop] =
      { s.onShared fun shared => { shared with worker := shared.worker.retire } with
        tenure := .joining } := by
  have hleaving : s.drop = { s.onShared (.onBacklog .count) with tenure := .leaving } := by
    simp only [drop, hheld, hfree, if_true]
  show s.drop.drop = _
  rw [hleaving]
  rfl

end LogShipping.Worker
