import LogShipping.Record
import LogShipping.Refusal
import LogShipping.Throttle
import LogShipping.Time.Tick
import LogShipping.Worker

/-!
A dispatcher passes records on to every registered target. The logging thread hands in a draft
together with the fields that every record carried at that moment; the dispatcher's worker completes
it and offers it to the targets registered when it comes to it, one after the other.

A target may not be ready for a record, and then the worker waits with it.
-/

namespace LogShipping

inductive Offer (H : Type) where
  | answered (target : H) (result : Except Refusal Unit)
  /-- The target goes on with the record when it is offered it again. -/
  | begun (target : H)
  | notReady

/-- Where records can be sent. Times of day are in milliseconds since the epoch. -/
class Target (H : Type) where
  offer : Nat → Record → H → Offer H
  /-- Begins a flush and gives its ticket. There is none when the flush fails at once. -/
  askFlush : Nat → H → H × Option Nat
  /-- How the flush with the ticket ended, if it has. -/
  answer? : Nat → H → Option Bool
  /-- Lets the target do what it can by itself. -/
  settle : H → H
  waiting : H → Nat
  isConsole : H → Bool

namespace Dispatcher

inductive Job where
  /-- A draft with the fields that every record carried when it was handed in. -/
  | dispatch (draft : Draft) (base : Fields)
  /-- A record on its way through the targets. -/
  | deliver (record : Record) (rest : List Nat)
  | barrier (ticket : Nat)

/-- What the worker shares with the callers. Targets are known by their place in the list of all
targets, and stay in it when they are no longer registered. -/
structure Scene (H : Type) where
  now : Nat
  origin : Origin
  targets : List H
  registered : List Nat
  reached : List Nat

variable {H : Type} [Target H]

def act (job : Job) (scene : Scene H) : Worker.Progress Job (Scene H) :=
  match job with
  | .dispatch draft base =>
    .left (.deliver (draft.complete scene.origin base) scene.registered) scene
  | .deliver _ [] => .finished scene
  | .deliver record (i :: rest) =>
    match scene.targets[i]? with
    | none => .left (.deliver record rest) scene
    | some target =>
      match Target.offer scene.now record target with
      | .answered target _ =>
        .left (.deliver record rest) { scene with targets := scene.targets.set i target }
      | .begun target =>
        .left (.deliver record (i :: rest)) { scene with targets := scene.targets.set i target }
      | .notReady => .waiting
  | .barrier ticket => .finished { scene with reached := scene.reached ++ [ticket] }

inductive Notice where
  | queueFull (count : UInt64)
  /-- The same, told by a flush. -/
  | dropped (count : UInt64)
  deriving DecidableEq

def Notice.text : Notice → String
  | queueFull count =>
    "Logger: dispatch queue full, dropped " ++ decimalText count.toNat ++ " records"
  | dropped count =>
    "Logger: dropped " ++ decimalText count.toNat ++ " records since last warning"

def standardCapacity : Nat := 1024

end Dispatcher

structure Dispatcher (H : Type) where
  threshold : Severity
  base : Fields
  capacity : Nat
  throttle : Throttle
  worker : Worker Dispatcher.Job
  scene : Dispatcher.Scene H
  tickets : Nat
  journal : List Dispatcher.Notice

namespace Dispatcher

variable {H : Type}

def new (origin : Origin) (capacity now : Nat) : Dispatcher H where
  threshold := .standard
  base := []
  capacity
  throttle := .new Throttle.standardInterval now
  worker := .new
  scene := { now, origin, targets := [], registered := [], reached := [] }
  tickets := 0
  journal := []

def targets (d : Dispatcher H) : List H :=
  d.scene.targets

def registered (d : Dispatcher H) : List Nat :=
  d.scene.registered

def setThreshold (threshold : Severity) (d : Dispatcher H) : Dispatcher H :=
  { d with threshold }

def addField (key : String) (value : FieldValue) (d : Dispatcher H) : Dispatcher H :=
  { d with base := d.base.set key value }

def onScene (f : Scene H → Scene H) (d : Dispatcher H) : Dispatcher H :=
  { d with scene := f d.scene }

/-- Makes a target known, without registering it. -/
def acquire (target : H) (d : Dispatcher H) : Dispatcher H × Nat :=
  (d.onScene fun s => { s with targets := s.targets ++ [target] }, d.targets.length)

def updateTarget (i : Nat) (f : H → H) (d : Dispatcher H) : Dispatcher H :=
  d.onScene fun s => { s with targets := s.targets.modify i f }

def unregisterAll (d : Dispatcher H) : Dispatcher H :=
  d.onScene fun s => { s with registered := [] }

def countRefusal (now : Nat) (d : Dispatcher H) : Dispatcher H :=
  let (throttle, report) := d.throttle.drop now
  { d with throttle, journal := d.journal ++ (report.map Notice.queueFull).toList }

def submit? (draft : Draft) (d : Dispatcher H) : Option (Dispatcher H) :=
  (d.worker.trySubmit? d.capacity (.dispatch draft d.base)).map fun worker => { d with worker }

def log (now : Nat) (draft : Draft) (d : Dispatcher H) : Dispatcher H :=
  if draft.severity.passes d.threshold then (d.submit? draft).getD (d.countRefusal now) else d

def reportRefusals (now : Nat) (d : Dispatcher H) : Dispatcher H :=
  let (throttle, report) := d.throttle.flush now
  { d with throttle, journal := d.journal ++ (report.map Notice.dropped).toList }

/-- Hands in a barrier and gives its ticket. There is none when the clock has no reading for the end
of the wait. -/
def askFlush (now : Nat) (tick : Tick) (timeout : Span) (d : Dispatcher H) :
    Dispatcher H × Option Nat :=
  let d := d.reportRefusals now
  match tick.add? timeout with
  | none => (d, none)
  | some _ =>
    ({ d with worker := d.worker.submit (.barrier d.tickets), tickets := d.tickets + 1 },
      some d.tickets)

def isReached (ticket : Nat) (d : Dispatcher H) : Bool :=
  d.scene.reached.contains ticket

section Work

variable [Target H]

def isConsoleAt (d : Dispatcher H) (i : Nat) : Bool :=
  d.targets[i]?.any Target.isConsole

/-- Registers a target. Of the targets that write to the console only the last is kept. -/
def register (i : Nat) (d : Dispatcher H) : Dispatcher H :=
  d.onScene fun s =>
    let kept :=
      if d.isConsoleAt i then s.registered.filter fun j => !d.isConsoleAt j else s.registered
    { s with registered := kept ++ [i] }

def addTarget (target : H) (d : Dispatcher H) : Dispatcher H :=
  let (d, i) := d.acquire target
  d.register i

def work? (d : Dispatcher H) : Option (Dispatcher H) :=
  (d.worker.step? act d.scene).map fun (worker, scene) => { d with worker, scene }

/-- The steps that a job takes at most, with targets that answer at once. -/
def stepsOf (registered : Nat) : Job → Nat
  | .dispatch .. => registered + 2
  | .deliver _ rest => rest.length + 1
  | .barrier _ => 1

def settleTargets (d : Dispatcher H) : Dispatcher H :=
  d.onScene fun s => { s with targets := s.targets.map Target.settle }

def run : Nat → Dispatcher H → Dispatcher H
  | 0, d => d
  | fuel + 1, d =>
    match d.work? with
    | none => d
    | some d => run fuel d.settleTargets

/-- Lets the worker run until it has nothing to do or waits for a target. -/
def settle (d : Dispatcher H) : Dispatcher H :=
  run (d.worker.steps (stepsOf d.registered.length)) d

def askTarget (now : Nat) (d : Dispatcher H) (i : Nat) : Dispatcher H × Option Nat :=
  match d.targets[i]? with
  | none => (d, none)
  | some target =>
    let (target, ticket) := Target.askFlush now target
    (d.updateTarget i fun _ => target, ticket)

def hasFlushed (d : Dispatcher H) (i : Nat) (ticket : Option Nat) : Bool :=
  match d.targets[i]?, ticket with
  | some target, some ticket => Target.answer? ticket target == some true
  | _, _ => false

def flushTargets (now : Nat) (places : List Nat) (d : Dispatcher H) : Dispatcher H × Bool :=
  let (d, asked) := places.foldl (fun (d, asked) i =>
    let (d, ticket) := d.askTarget now i
    (d, asked ++ [(i, ticket)])) (d, [])
  let d := d.settleTargets
  (d, asked.all fun (i, ticket) => d.hasFlushed i ticket)

/-- Passes on every draft handed in so far and then flushes every registered target. A flush has no
outcome when the clock has no reading for the end of the wait. -/
def flush (now : Nat) (tick : Tick) (timeout : Span) (d : Dispatcher H) :
    Dispatcher H × Option Bool :=
  match d.askFlush now tick timeout with
  | (d, none) => (d, none)
  | (d, some ticket) =>
    let d := d.settle
    if d.isReached ticket then
      let (d, all) := d.flushTargets now d.registered
      (d, some all)
    else (d, some false)

def retire (d : Dispatcher H) : Dispatcher H :=
  { d with worker := d.worker.retire }.settle

def waiting (d : Dispatcher H) : Nat :=
  d.registered.foldl (fun count i => count + (d.targets[i]?.map Target.waiting).getD 0)
    d.worker.waiting

def isClear (d : Dispatcher H) : Bool :=
  d.worker.waiting == 0 &&
    d.registered.all fun i => d.targets[i]?.all fun target => Target.waiting target == 0

end Work

def inspect (d : Dispatcher H) : String :=
  let origin := d.scene.origin
  Inspect.parts "Logger"
    [("min_severity", d.threshold.name),
      ("handlers", decimalText d.registered.length),
      ("metadata",
        Inspect.parts "RecordMetadata"
          [("host", Inspect.quoted origin.host),
            ("process_id", decimalText origin.processId.toNat),
            ("process_name", Inspect.quoted origin.processName)]
          false)]
    false

end Dispatcher

end LogShipping
