import LogShipping.Dispatcher
import LogShipping.Threads

/-!
A dispatcher used by many threads at once. A flush first waits for its barrier, and then asks the
targets registered at that moment, in any order, and waits for all of them. Meanwhile other callers,
the dispatcher's worker and the targets themselves go on; what a target does by itself is told by
its owner.
-/

namespace LogShipping

/-- A target with everything it was offered, oldest first. -/
structure Watched (H : Type) where
  target : H
  offers : List (Record × Except Refusal Unit)

namespace Watched

variable {H : Type}

def of (target : H) : Watched H :=
  ⟨target, []⟩

variable [Target H]

def offer (now : Nat) (r : Record) (w : Watched H) : Offer (Watched H) :=
  match Target.offer now r w.target with
  | .answered target result => .answered ⟨target, w.offers ++ [(r, result)]⟩ result
  | .begun target => .begun { w with target }
  | .notReady => .notReady

def askFlush (now : Nat) (w : Watched H) : Watched H × Option Nat :=
  let (target, ticket) := Target.askFlush now w.target
  ({ w with target }, ticket)

instance : Target (Watched H) where
  offer := offer
  askFlush := askFlush
  answer? ticket w := Target.answer? ticket w.target
  settle w := { w with target := Target.settle w.target }
  waiting w := Target.waiting w.target
  isConsole w := Target.isConsole w.target

end Watched

namespace Dispatcher

/-- Where a caller is. `promised` counts the drafts that had been taken when its flush began. -/
inductive Point where
  | idle
  | draining (ticket promised : Nat)
  /-- The targets at the places `rest` are still to be asked. -/
  | flushing (rest : List Nat) (asked : List (Nat × Option Nat)) (promised : Nat)
  deriving DecidableEq

inductive Move where
  | setThreshold (threshold : Severity)
  | addField (key : String) (value : FieldValue)
  | register (place : Nat)
  | unregisterAll
  | log (now : Nat) (draft : Draft)
  | flush (now : Nat) (tick : Tick) (timeout : Span)
  /-- Asks the target that stands at `index` among those still to be asked. -/
  | ask (index now : Nat)
  | resume
  | giveUp
  deriving DecidableEq

/-- How a flush ended that had to see `promised` drafts through. -/
structure FlushOutcome where
  promised : Nat
  flushed : Bool
  deriving DecidableEq

structure Shared (H : Type) where
  dispatcher : Dispatcher H
  /-- The drafts taken so far, each with the fields that every record carried then. -/
  taken : List (Draft × Fields)
  /-- How flushes have ended so far, oldest first. -/
  flushes : List FlushOutcome

namespace Shared

variable {H : Type}

def new (dispatcher : Dispatcher H) : Shared H :=
  ⟨dispatcher, [], []⟩

def log (now : Nat) (draft : Draft) (s : Shared H) : Shared H :=
  let d := s.dispatcher
  if draft.severity.passes d.threshold then
    match d.submit? draft with
    | some dispatcher => { s with dispatcher, taken := s.taken ++ [(draft, d.base)] }
    | none => { s with dispatcher := d.countRefusal now }
  else s

def finish (promised : Nat) (flushed : Bool) (s : Shared H) : Shared H :=
  { s with flushes := s.flushes ++ [⟨promised, flushed⟩] }

end Shared

variable {H : Type} [Target H]

def outcome? (asked : List (Nat × Option Nat)) (d : Dispatcher H) : Option Bool :=
  let isOver (i : Nat) (ticket : Option Nat) : Bool :=
    match d.targets[i]?, ticket with
    | some target, some ticket => (Target.answer? ticket target).isSome
    | _, _ => true
  if asked.all fun (i, ticket) => isOver i ticket then
    some (asked.all fun (i, ticket) => d.hasFlushed i ticket)
  else none

/-- Counting a refusal and the report that may follow are one step here, and so is the report that a
flush makes. Their own steps are those of `Throttle.act`. -/
def callStep (move : Move) (point : Point) (s : Shared H) : Option (Point × Shared H) :=
  let d := s.dispatcher
  match move, point with
  | .setThreshold threshold, .idle =>
    some (.idle, { s with dispatcher := d.setThreshold threshold })
  | .addField key value, .idle => some (.idle, { s with dispatcher := d.addField key value })
  | .register place, .idle => some (.idle, { s with dispatcher := d.register place })
  | .unregisterAll, .idle => some (.idle, { s with dispatcher := d.unregisterAll })
  | .log now draft, .idle => some (.idle, s.log now draft)
  | .flush now tick timeout, .idle =>
    let (dispatcher, ticket) := d.askFlush now tick timeout
    some (match ticket with
      | some ticket => .draining ticket s.taken.length
      | none => .idle,
      { s with dispatcher })
  | .resume, .draining ticket promised =>
    if d.isReached ticket then some (.flushing d.registered [] promised, s) else none
  | .ask index now, .flushing rest asked promised =>
    rest[index]?.map fun place =>
      let (dispatcher, ticket) := d.askTarget now place
      (.flushing (rest.eraseIdx index) (asked ++ [(place, ticket)]) promised,
        { s with dispatcher })
  | .resume, .flushing [] asked promised =>
    (d.outcome? asked).map fun flushed => (.idle, s.finish promised flushed)
  | .giveUp, .draining _ promised => some (.idle, s.finish promised false)
  | .giveUp, .flushing _ _ promised => some (.idle, s.finish promised false)
  | _, _ => none

inductive Turn (ω : Type) where
  | caller (i : Nat) (move : Move)
  | worker
  /-- Target number `i` does something by itself. -/
  | target (i : Nat) (deed : ω)

variable {ω : Type}

def Turn.take (own : ω → H → H) (turn : Turn ω) (s : Threads (Shared H) Point) :
    Threads (Shared H) Point :=
  match turn with
  | caller i move => s.step callStep i move
  | worker =>
    match s.shared.dispatcher.work? with
    | some dispatcher => { s with shared := { s.shared with dispatcher } }
    | none => s
  | target i deed =>
    { s with shared := { s.shared with
      dispatcher := s.shared.dispatcher.updateTarget i (own deed) } }

def runTurns (own : ω → H → H) (turns : List (Turn ω)) (s : Threads (Shared H) Point) :
    Threads (Shared H) Point :=
  turns.foldl (fun s turn => Turn.take own turn s) s

omit [Target H] in
theorem dispatcher_log (now : Nat) (draft : Draft) (s : Shared H) :
    (s.log now draft).dispatcher = s.dispatcher.log now draft := by
  by_cases hpass : draft.severity.passes s.dispatcher.threshold
  · cases h : s.dispatcher.submit? draft <;> simp [Shared.log, Dispatcher.log, hpass, h]
  · simp [Shared.log, Dispatcher.log, hpass]

end Dispatcher

end LogShipping
