import LogShipping.Device
import LogShipping.Layout
import LogShipping.Refusal
import LogShipping.Text.Utf8
import LogShipping.Throttle
import LogShipping.Time.Tick
import LogShipping.Worker

/-!
A sink that writes one line per record to a device. The caller lays the line out and hands it to the
sink's worker, which does the writing; a record is refused when as many jobs wait as may wait.

A flush is a job behind the lines handed in before. Its ticket is answered when the worker has come
to it.
-/

namespace LogShipping

namespace LineSink

inductive Job where
  /-- What is still to be written of a line, piece by piece. -/
  | write (pieces : List (List UInt8))
  | flush (ticket : Nat)
  deriving DecidableEq

inductive Notice where
  /-- So many records were refused since the last report. -/
  | queueFull (count : UInt64)
  /-- The same, told by a flush. -/
  | dropped (count : UInt64)
  | writeFailed
  | flushFailed
  deriving DecidableEq

def Notice.text (sink : String) : Notice → String
  | queueFull count =>
    sink ++ ": queue full, dropped " ++ decimalText count.toNat ++ " records in the last interval"
  | dropped count => sink ++ ": dropped " ++ decimalText count.toNat ++ " records since last warning"
  | writeFailed => sink ++ ": write error"
  | flushFailed => sink ++ ": flush error"

structure Scene (μ : Type) where
  device : μ
  journal : List Notice
  /-- The tickets of the flushes made, each with its outcome. -/
  answers : List (Nat × Bool)

variable {μ : Type} [Device μ]

/-- One call of the device. An interrupted write is made again; a write that fails otherwise, or
takes nothing, ends the line. -/
def act (job : Job) (scene : Scene μ) : Worker.Progress Job (Scene μ) :=
  match job with
  | .write [] => .finished scene
  | .write ([] :: rest) => .left (.write rest) scene
  | .write (piece :: rest) =>
    if Device.ready scene.device then
      let (reply, device) := Device.write piece scene.device
      let scene := { scene with device }
      let failed := .finished { scene with journal := scene.journal ++ [.writeFailed] }
      match reply with
      | .took 0 => failed
      | .took count => .left (.write (piece.drop count :: rest)) scene
      | .failed .interrupted => .left (.write (piece :: rest)) scene
      | .failed _ => failed
    else .waiting
  | .flush ticket =>
    if Device.ready scene.device then
      let (ok, device) := Device.flush scene.device
      .finished { scene with
        device
        journal := if ok then scene.journal else scene.journal ++ [.flushFailed]
        answers := scene.answers ++ [(ticket, ok)] }
    else .waiting

def linePieces (line : String) : List (List UInt8) :=
  [Text.utf8 line, Text.utf8 "\n"]

def standardCapacity : Nat := 1024

def streamName : String := "StreamHandler"

def fileName : String := "FileHandler"

end LineSink

structure LineSink (μ : Type) where
  name : String
  layout : Layout
  capacity : Nat
  isConsole : Bool
  closed : Bool
  throttle : Throttle
  worker : Worker LineSink.Job
  scene : LineSink.Scene μ
  tickets : Nat

namespace LineSink

variable {μ : Type}

def new (device : μ) (layout : Layout) (capacity now : Nat) : LineSink μ where
  name := streamName
  layout
  capacity
  isConsole := false
  closed := false
  throttle := .new Throttle.standardInterval now
  worker := .new
  scene := ⟨device, [], []⟩
  tickets := 0

def console (device : μ) (now : Nat) : LineSink μ :=
  { new device Layout.console standardCapacity now with isConsole := true }

def waiting (s : LineSink μ) : Nat :=
  s.worker.waiting

def journal (s : LineSink μ) : List Notice :=
  s.scene.journal

def note (notice : Notice) (s : LineSink μ) : LineSink μ :=
  { s with scene := { s.scene with journal := s.scene.journal ++ [notice] } }

def submit? (r : Record) (s : LineSink μ) : Option (LineSink μ) :=
  (s.worker.trySubmit? s.capacity (.write (linePieces (s.layout r)))).map fun worker =>
    { s with worker }

/-- Counts a refused record, and tells if it is time. -/
def countRefusal (now : Nat) (s : LineSink μ) : LineSink μ :=
  let (throttle, report) := s.throttle.drop now
  let s := { s with throttle }
  match report with
  | some count => s.note (.queueFull count)
  | none => s

def add (now : Nat) (r : Record) (s : LineSink μ) : LineSink μ × Except Refusal Unit :=
  if s.closed then (s, .error .closed)
  else
    match s.submit? r with
    | some s => (s, .ok ())
    | none => (s.countRefusal now, .error .queueFull)

def reportRefusals (now : Nat) (s : LineSink μ) : LineSink μ :=
  let (throttle, report) := s.throttle.flush now
  let s := { s with throttle }
  match report with
  | some count => s.note (.dropped count)
  | none => s

/-- Hands in a flush and gives its ticket. There is no flush when the clock has no reading for the
end of the wait. -/
def askFlush (now : Nat) (tick : Tick) (timeout : Span) (s : LineSink μ) :
    LineSink μ × Option Nat :=
  let s := s.reportRefusals now
  match tick.add? timeout with
  | none => (s, none)
  | some _ =>
    ({ s with worker := s.worker.submit (.flush s.tickets), tickets := s.tickets + 1 },
      some s.tickets)

def shut (s : LineSink μ) : LineSink μ :=
  { s with closed := true }

def answer? (ticket : Nat) (s : LineSink μ) : Option Bool :=
  s.scene.answers.lookup ticket

/-- The calls that a job makes at most, a line being interrupted once at most. -/
def callsOf : Job → Nat
  | .write pieces => pieces.foldl (fun calls piece => calls + (piece.length + 1)) 2
  | .flush _ => 1

section Work

variable [Device μ]

def work? (s : LineSink μ) : Option (LineSink μ) :=
  (s.worker.step? act s.scene).map fun (worker, scene) => { s with worker, scene }

def settle (s : LineSink μ) : LineSink μ :=
  let (worker, scene) := s.worker.settle act callsOf s.scene
  { s with worker, scene }

/-- A flush whose caller waits until the worker has come to rest. It has no outcome when the clock
has no reading for the end of the wait. -/
def flush (now : Nat) (tick : Tick) (timeout : Span) (s : LineSink μ) :
    LineSink μ × Option Bool :=
  match s.askFlush now tick timeout with
  | (s, some ticket) =>
    let s := s.settle
    (s, some (s.answer? ticket == some true))
  | (s, none) => (s, none)

def close (now : Nat) (tick : Tick) (timeout : Span) (s : LineSink μ) :
    LineSink μ × Option Bool :=
  s.shut.flush now tick timeout

def retire (s : LineSink μ) : LineSink μ :=
  { s with worker := s.worker.retire }.settle

end Work

def inspect (s : LineSink μ) : String :=
  Inspect.parts s.name
    [("capacity", decimalText s.capacity),
      ("console", Inspect.truth s.isConsole),
      ("queue_size", decimalText s.waiting)]
    false

end LineSink

end LogShipping
