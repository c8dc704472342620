import LogShipping.Device.Recorded
import LogShipping.Sink.Threads
import LogShipping.Worker.History

/-!
The whole life of a sink: callers and the worker take turns, the layout may be replaced while nobody
else holds the sink, and in the end the sink is dropped. Its device may change by itself between two
calls, so that it can behave in any way.
-/

namespace LogShipping.LineSink

open Device (Recorded)

variable {μ : Type}

def Outcome.accepted? : Outcome → Option Record
  | added r (.ok ()) => some r
  | _ => none

/-- How a record was added, and its place if it was. -/
def Outcome.placed? (place : Nat) : Outcome → Option (Except Refusal Nat)
  | added _ result => some (result.map fun _ => place)
  | _ => none

def Shared.accepted (s : Shared μ) : List Record :=
  s.outcomes.filterMap Outcome.accepted?

def Job.isWrite : Job → Bool
  | write _ => true
  | flush _ => false

def withLayout (layout : Layout) (s : LineSink μ) : LineSink μ :=
  { s with layout }

structure Service (μ : Type) where
  threads : Threads (Shared (Recorded μ)) Point
  history : Worker.History Job (Scene (Recorded μ))
  /-- The records that were accepted, oldest first, each with the layout in force then. -/
  accepted : List (Record × Layout)
  dropped : Bool

namespace Service

inductive Event (μ : Type) where
  | call (i now : Nat) (move : Move)
  | work
  | device (change : μ → μ)
  | relayout (layout : Layout)
  | drop

def start (sink : LineSink (Recorded μ)) (callers : Nat) : Service μ where
  threads := .start (.new sink) .idle callers
  history := .empty
  accepted := []
  dropped := false

def sink (s : Service μ) : LineSink (Recorded μ) :=
  s.threads.shared.sink

def taken (s : Service μ) : List UInt8 :=
  s.sink.scene.device.taken

def isOwned (s : Service μ) : Bool :=
  !s.dropped && s.threads.points.all (· == .idle)

def onSink (f : LineSink (Recorded μ) → LineSink (Recorded μ)) (s : Service μ) : Service μ :=
  { s with threads := { s.threads with
    shared := { s.threads.shared with sink := f s.threads.shared.sink } } }

def call (i now : Nat) (move : Move) (s : Service μ) : Service μ :=
  let threads := s.threads.step (callStep now) i move
  let added := threads.shared.outcomes.drop s.threads.shared.outcomes.length
  { s with
    threads
    accepted := s.accepted ++ (added.filterMap Outcome.accepted?).map fun r => (r, s.sink.layout) }

def moveFor (r : Record) : Option Point → Move
  | some (.cleared r') => if r' = r then .resume else .add r
  | _ => .add r

/-- The first caller goes on with the record. Once its call is over, it is told how, and where the
record stands among those accepted. -/
def handIn (now : Nat) (r : Record) (s : Service μ) : Service μ × Option (Except Refusal Nat) :=
  let next := s.call 0 now (moveFor r s.threads.points[0]?)
  let ended := next.threads.shared.outcomes.drop s.threads.shared.outcomes.length
  (next, ended.head?.bind (Outcome.placed? s.accepted.length))

def askFlush (now : Nat) (wait : Wait) (s : Service μ) : Service μ × Option Nat :=
  let (sink, ticket) := s.sink.askFlush now wait.tick wait.timeout
  (s.onSink fun _ => sink, ticket)

def onDevice (change : μ → μ) (s : Service μ) : Service μ :=
  s.onSink fun sink =>
    let device := sink.scene.device
    { sink with scene := { sink.scene with
      device := { device with device := change device.device } } }

/-- Nobody calls a sink that is dropped, and its worker stops when it has done what waits. -/
def drop (s : Service μ) : Service μ :=
  { s.onSink fun sink => { sink with worker := sink.worker.retire } with dropped := true }

variable [Device μ]

def work (s : Service μ) : Service μ :=
  match s.sink.work? with
  | some sink =>
    { s.onSink fun _ => sink with history := s.history.next sink.worker sink.scene }
  | none => s

def step (event : Event μ) (s : Service μ) : Service μ :=
  match event with
  | .call i now move => if s.dropped then s else s.call i now move
  | .work => s.work
  | .device change => s.onDevice change
  | .relayout layout => if s.isOwned then s.onSink (withLayout layout) else s
  | .drop => if s.isOwned then s.drop else s

def run (events : List (Event μ)) (s : Service μ) : Service μ :=
  events.foldl (fun s event => s.step event) s

omit [Device μ] in
def lines (s : Service μ) : List (Worker.Shift Job (Scene (Recorded μ))) :=
  s.history.shifts.filter (·.job.isWrite)

theorem run_induction {P : Service μ → Prop} (keep : ∀ s event, P s → P (s.step event))
    (events : List (Event μ)) {s : Service μ} (h : P s) : P (s.run events) :=
  List.foldlRecOn events _ h fun s h event _ => keep s event h

end Service

def bytesOf (line : Worker.Shift Job (Scene (Recorded μ))) : List UInt8 :=
  line.gain (·.device.taken)

end LogShipping.LineSink
