import LogShipping.Backlog
import LogShipping.Network.FrameBuffer
import LogShipping.Time.Tick
import LogShipping.Uplink.Event

/-!
The part of an uplink that talks to the network. It looks the server's address up, dials the
endpoints it was given one by one, and then moves messages from the queue through a buffer to the
connection. Whatever fails leads to a wait and a new lookup.

Between two messages the queue may hold barriers, which are released when they are reached. They do
not count as messages.

What the outside world does during a step is data of the step, so that a run is a list of steps.
-/

namespace LogShipping.Uplink

open Network

inductive Parcel where
  | text (message : String)
  | barrier (id : Nat)
  deriving DecidableEq

structure Link where
  endpoint : Endpoint
  /-- The messages taken from the queue while it was live. -/
  taken : List String := []
  /-- The bytes that the connection accepted. -/
  written : List UInt8 := []
  /-- The bytes that were in the buffer when it was lost. -/
  discarded : List UInt8 := []
  deriving DecidableEq

inductive Phase where
  | addressLookup
  | retryWait (deadline : Tick)
  | connecting (plan : DialPlan)
  | sendLoop (link : Link)
  deriving DecidableEq

def Phase.stage : Phase → Stage
  | addressLookup => .addressLookup
  | retryWait _ => .retryWait
  | connecting _ => .connecting
  | sendLoop _ => .sendLoop

inductive Halt where
  /-- It was asked to stop. -/
  | stopped
  /-- The clock has no reading for the end of a wait. -/
  | deadlineOutOfRange
  deriving DecidableEq

inductive ReadReply where
  | nothingYet
  | data
  | closed
  | failed (kind : IoError.Kind)
  deriving DecidableEq

/-- What the outside world does during one step. -/
structure Outside where
  tick : Tick
  /-- The answer of the lookup, once there is one. -/
  found : Option (Except String (List Endpoint)) := none
  /-- Whether the endpoint that is dialled answers. -/
  reachable : Endpoint → Bool := fun _ => false
  /-- Why an endpoint that does not answer cannot be reached. -/
  obstacle : Endpoint → IoError := fun _ => .refusedConnection
  read : ReadReply := .nothingYet
  /-- The connection's answer when it is offered so many bytes. -/
  write : Nat → WriteReply := .took
  shutdown : Bool := false

structure Shipper where
  settings : Settings
  backlog : Backlog Parcel
  /-- The stage as others see it. -/
  published : Stage
  phase : Phase
  halted : Option Halt
  buffer : FrameBuffer
  released : List Nat
  /-- The connections lost so far, oldest first. -/
  past : List Link
  journal : List Event

namespace Shipper

def new (settings : Settings) : Shipper where
  settings
  backlog := .empty
  published := .addressLookup
  phase := .addressLookup
  halted := none
  buffer := .empty
  released := []
  past := []
  journal := []

def note (event : Event) (s : Shipper) : Shipper :=
  { s with journal := s.journal ++ [event] }

def publish (s : Shipper) : Shipper :=
  if s.phase.stage = s.published then s
  else { s.note (.moved s.published s.phase.stage) with published := s.phase.stage }

def retryAfter (delay : Span) (o : Outside) (s : Shipper) : Shipper :=
  match o.tick.add? delay with
  | some deadline => { s with phase := .retryWait deadline }
  | none => { s with halted := some .deadlineOutOfRange }

def lookUp (o : Outside) (s : Shipper) : Shipper :=
  match o.found with
  | none => s
  | some (.ok []) => (s.note .lookupEmpty).retryAfter s.settings.longRetry o
  | some (.ok found) => { s with phase := .connecting (.ofLookup found) }
  | some (.error reason) => (s.note (.lookupFailed reason)).retryAfter s.settings.longRetry o

def wait (deadline : Tick) (o : Outside) (s : Shipper) : Shipper :=
  if o.tick.reaches deadline then { s with phase := .addressLookup } else s

/-- Dials the next endpoint. When it was the last and does not answer, everything starts again after
the long wait. -/
def dial (plan : DialPlan) (o : Outside) (s : Shipper) : Shipper :=
  match plan.next? with
  | none => s.retryAfter s.settings.longRetry o
  | some (endpoint, rest) =>
    if o.reachable endpoint then { s.note (.dialled endpoint) with phase := .sendLoop { endpoint } }
    else
      let s := s.note (.dialFailed endpoint (o.obstacle endpoint))
      if rest.isExhausted then s.retryAfter s.settings.longRetry o
      else { s with phase := .connecting rest }

/-- Gives the connection up. What was not sent is discarded, so that the next connection starts with
a whole message. -/
def lose (cause : IoError) (link : Link) (o : Outside) (s : Shipper) : Shipper :=
  { s.note (.lost cause s.buffer.size) with
    past := s.past ++ [{ link with discarded := s.buffer.bytes }]
    buffer := .empty }.retryAfter s.settings.shortRetry o

/-- Takes one entry from the queue, unless more bytes wait already than should. An empty message has
no frame. -/
def load (link : Link) (s : Shipper) : Shipper × Link :=
  if s.buffer.exceeds s.settings.highWater then (s, link)
  else
    match s.backlog.pop? with
    | none => (s, link)
    | some (.barrier id, backlog) => ({ s with backlog, released := s.released ++ [id] }, link)
    | some (.text message, backlog) =>
      ({ s with
          backlog
          buffer := if message.isEmpty then s.buffer else s.buffer.push message },
        { link with taken := link.taken ++ [message] })

def unload (link : Link) (o : Outside) (s : Shipper) : Shipper :=
  match s.buffer.write (o.write s.buffer.size) with
  | (buffer, .ok sent) =>
    { s with buffer, phase := .sendLoop { link with written := link.written ++ sent } }
  | (_, .error cause) => s.lose cause link o

def ship (link : Link) (o : Outside) (s : Shipper) : Shipper :=
  match o.read with
  | .closed => s.lose .closedByPeer link o
  | .failed kind =>
    if kind.isTransient then
      let (s, link) := s.load link
      s.unload link o
    else s.lose (.bare kind) link o
  | _ =>
    let (s, link) := s.load link
    s.unload link o

def step (o : Outside) (s : Shipper) : Shipper :=
  if s.halted.isSome then s
  else
    let s := s.publish
    if o.shutdown then { s with halted := some .stopped }
    else
      match s.phase with
      | .addressLookup => s.lookUp o
      | .retryWait deadline => s.wait deadline o
      | .connecting plan => s.dial plan o
      | .sendLoop link => s.ship link o

/-- The connection in use. None is once the clock had no reading for the wait after a loss, though
the phase has not changed then. -/
def live? (s : Shipper) : Option Link :=
  if s.halted = some .deadlineOutOfRange then none
  else
    match s.phase with
    | .sendLoop link => some link
    | _ => none

/-- Every connection so far, oldest first, the live one last. -/
def links (s : Shipper) : List Link :=
  s.past ++ s.live?.toList

end Shipper

end LogShipping.Uplink
