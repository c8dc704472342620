import LogShipping.Sink.FileSink
import LogShipping.Sink.Service

/-!
Sinks that are opened on one file, one after another. The sink's owner and every job that is not
over hold the file's writer, and the last of them to let it go empties the buffer. Dropping a sink
lasts until its worker has stopped, and the next one can be opened then.
-/

namespace LogShipping.FileSink

open LineSink (Move Point Shared Outcome)

def lineText (entry : Record × Layout) : List UInt8 :=
  Text.utf8 (entry.2 entry.1 ++ "\n")

/-- A sink on the file and the threads that use it. -/
structure Session where
  threads : Threads (Shared Device.Buffered) Point
  dropped : Bool

namespace Session

def start (sink : FileSink) (callers : Nat) : Session :=
  ⟨.start (.new sink.lines) .idle callers, false⟩

def sink (s : Session) : FileSink :=
  ⟨s.threads.shared.sink⟩

def onLines (f : LineSink Device.Buffered → LineSink Device.Buffered) (s : Session) : Session :=
  { s with threads := { s.threads with
    shared := { s.threads.shared with sink := f s.threads.shared.sink } } }

def accepted (s : Session) : List (Record × Layout) :=
  s.threads.shared.accepted.map fun r => (r, s.sink.lines.layout)

def isAdding (s : Session) : Bool :=
  s.threads.points.any fun
    | .cleared _ => true
    | _ => false

/-- How many hold the writer: the owner, and the jobs that are not over. -/
def holders (s : Session) : Nat :=
  (if s.dropped then 0 else 1) + s.sink.lines.worker.pending.length

/-- The writer empties its buffer when nobody holds it any more. -/
def letGo (s : Session) : Session :=
  if s.holders = 0 then
    s.onLines fun lines =>
      { lines with scene := { lines.scene with device := lines.scene.device.spill.2 } }
  else s

def call (i now : Nat) (move : Move) (s : Session) : Session :=
  if s.dropped then s else { s with threads := s.threads.step (LineSink.callStep now) i move }

def work (s : Session) : Session :=
  match s.sink.work? with
  | some sink => (s.onLines fun _ => sink.lines).letGo
  | none => s

/-- The owner drops the sink once no call is under way. -/
def drop (s : Session) : Session :=
  if !s.dropped && s.threads.points.all (· == .idle) then
    { s.onLines fun lines => { lines with worker := lines.worker.retire } with
      dropped := true }.letGo
  else s

def isOver (s : Session) : Bool :=
  s.dropped && s.sink.lines.worker.activity == .stopped

end Session

structure Archive where
  /-- What the path led to when no sink was open on it last. -/
  place : Place
  session : Option Session
  /-- How many sinks have been opened. -/
  opened : Nat
  /-- The records accepted in the sessions that are over. -/
  past : List (Record × Layout)
  /-- Why no sink was opened, each time. -/
  refused : List SetupError

namespace Archive

inductive Event where
  | openSink (layout : Layout) (capacity now callers : Nat)
  | call (i now : Nat) (move : Move)
  | work
  | drop

def start (place : Place) : Archive :=
  ⟨place, none, 0, [], []⟩

def file (a : Archive) : Place :=
  match a.session with
  | some s => s.sink.place
  | none => a.place

def accepted (a : Archive) : List (Record × Layout) :=
  a.past ++ (a.session.map Session.accepted).getD []

def outcomes (a : Archive) : List Outcome :=
  (a.session.map fun s => s.threads.shared.outcomes).getD []

def isAdding (a : Archive) : Bool :=
  a.session.any Session.isAdding

def point? (i : Nat) (a : Archive) : Option Point :=
  a.session.bind fun s => s.threads.points[i]?

def openSink (layout : Layout) (capacity now callers : Nat) (a : Archive) : Archive :=
  match FileSink.openAt a.place layout capacity now with
  | .error cause => { a with refused := a.refused ++ [cause] }
  | .ok sink => { a with session := some (.start sink callers), opened := a.opened + 1 }

def withSession (s : Session) (a : Archive) : Archive :=
  if s.isOver then
    { a with place := s.sink.place, session := none, past := a.past ++ s.accepted }
  else { a with session := some s }

def step (event : Event) (a : Archive) : Archive :=
  match event, a.session with
  | .openSink layout capacity now callers, none => a.openSink layout capacity now callers
  | .call i now move, some s => a.withSession (s.call i now move)
  | .work, some s => a.withSession s.work
  | .drop, some s => a.withSession s.drop
  | _, _ => a

def run (events : List Event) (a : Archive) : Archive :=
  events.foldl (fun a event => a.step event) a

theorem run_induction {P : Archive → Prop} (keep : ∀ a event, P a → P (a.step event))
    (events : List Event) {a : Archive} (h : P a) : P (a.run events) :=
  List.foldlRecOn events _ h fun a h event _ => keep a event h

end Archive

end LogShipping.FileSink
