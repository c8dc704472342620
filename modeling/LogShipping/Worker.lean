import LogShipping.Backlog
import LogShipping.Numeric.Decimal
import LogShipping.Text.Inspect

/-!
A worker that runs jobs one at a time, in the order in which they were handed in. Retiring it puts a
stop behind all jobs handed in before. A job that panics takes the worker with it, and the jobs
behind stay where they are.

What a job does is told by the owner of the worker, as one step of the job on the scene that the
owner and the worker share.
-/

namespace LogShipping

namespace Worker

inductive Task (J : Type) where
  | run (job : J)
  | stop
  deriving DecidableEq

inductive Activity (J : Type) where
  | idle
  | busy (job : J)
  | stopped
  | crashed
  deriving DecidableEq

/-- What one step of a job comes to. -/
inductive Progress (J σ : Type) where
  | finished (scene : σ)
  /-- The job goes on, and this is what is left of it. -/
  | left (job : J) (scene : σ)
  /-- Nothing can be done until the scene changes. -/
  | waiting
  | panicked (scene : σ)

end Worker

structure Worker (J : Type) where
  backlog : Backlog (Worker.Task J)
  activity : Worker.Activity J
  deriving DecidableEq

namespace Worker

variable {J σ : Type}

def new : Worker J := ⟨.empty, .idle⟩

def submit (job : J) (w : Worker J) : Worker J :=
  { w with backlog := w.backlog.push (.run job) }

def trySubmit? (limit : Nat) (job : J) (w : Worker J) : Option (Worker J) :=
  (w.backlog.tryPush? limit (.run job)).map fun backlog => { w with backlog }

/-- Asks the worker to stop once it has run what waits. -/
def retire (w : Worker J) : Worker J :=
  { w with backlog := w.backlog.push .stop }

def waiting (w : Worker J) : Nat :=
  w.backlog.size

def take? (w : Worker J) : Option (Worker J) :=
  match w.backlog.pop? with
  | none => none
  | some (.run job, backlog) => some ⟨backlog, .busy job⟩
  | some (.stop, backlog) => some ⟨backlog, .stopped⟩

/-- One step of the worker: take a task, or go on with the job at hand. -/
def step? (act : J → σ → Progress J σ) (w : Worker J) (scene : σ) : Option (Worker J × σ) :=
  match w.activity with
  | .idle => w.take?.map fun w => (w, scene)
  | .busy job =>
    match act job scene with
    | .finished scene => some ({ w with activity := .idle }, scene)
    | .left job scene => some ({ w with activity := .busy job }, scene)
    | .waiting => none
    | .panicked scene => some ({ w with activity := .crashed }, scene)
  | .stopped => none
  | .crashed => none

def run (act : J → σ → Progress J σ) : Nat → Worker J → σ → Worker J × σ
  | 0, w, scene => (w, scene)
  | fuel + 1, w, scene =>
    match w.step? act scene with
    | none => (w, scene)
    | some (w, scene) => run act fuel w scene

def Task.steps (cost : J → Nat) : Task J → Nat
  | .run job => 1 + cost job
  | .stop => 1

def Activity.steps (cost : J → Nat) : Activity J → Nat
  | .busy job => cost job
  | _ => 0

/-- How many steps are left at most, when a job takes at most `cost` of them. -/
def steps (cost : J → Nat) (w : Worker J) : Nat :=
  w.backlog.items.foldl (fun left task => left + task.steps cost) (w.activity.steps cost)

def settle (act : J → σ → Progress J σ) (cost : J → Nat) (w : Worker J) (scene : σ) :
    Worker J × σ :=
  run act (w.steps cost) w scene

def hasCrashed (w : Worker J) : Bool :=
  match w.activity with
  | .crashed => true
  | _ => false

/-- Told when a crashed worker is retired. -/
def crashNotice : String := "SerialExecutor: worker thread panicked"

def inspect (w : Worker J) : String :=
  Inspect.parts "SerialExecutor" [("queue_size", decimalText w.waiting)] false

end Worker

end LogShipping
