import LogShipping.Worker

namespace LogShipping.Worker

inductive Drill where
  | mark (id : Nat)
  | passGate
  | signal (ticket : Nat)
  | panic
  deriving DecidableEq

namespace Drill

structure Ground where
  gateOpen : Bool
  marks : List Nat
  signals : List Nat
  deriving DecidableEq

def act : Drill → Ground → Progress Drill Ground
  | mark id, g => .finished { g with marks := g.marks ++ [id] }
  | passGate, g => if g.gateOpen then .finished g else .waiting
  | signal ticket, g => .finished { g with signals := g.signals ++ [ticket] }
  | panic, g => .panicked g

structure Session where
  worker : Worker Drill
  ground : Ground
  tickets : Nat

namespace Session

def start : Session :=
  { worker := .new, ground := ⟨true, [], []⟩, tickets := 0 }

/-- Each drill is over in one step. -/
def settle (s : Session) : Session :=
  let (worker, ground) := s.worker.settle act (fun _ => 1) s.ground
  { s with worker, ground }

def submit (job : Drill) (s : Session) : Session :=
  { s with worker := s.worker.submit job }

def trySubmit? (limit : Nat) (job : Drill) (s : Session) : Option Session :=
  (s.worker.trySubmit? limit job).map fun worker => { s with worker }

/-- Hands in a signal behind all jobs handed in before, and gives its ticket. -/
def barrier (s : Session) : Session × Nat :=
  ({ s.submit (.signal s.tickets) with tickets := s.tickets + 1 }, s.tickets)

def isReached (ticket : Nat) (s : Session) : Bool :=
  s.ground.signals.contains ticket

def setGate (isOpen : Bool) (s : Session) : Session :=
  { s with ground := { s.ground with gateOpen := isOpen } }

def finish (s : Session) : Session :=
  let s := s.setGate true
  { s with worker := s.worker.retire }.settle

end Session

end Drill

end LogShipping.Worker
