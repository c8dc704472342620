import LogShipping.Gelf
import LogShipping.Throttle
import LogShipping.Uplink.Shipper
import LogShipping.Worker

/-!
An uplink takes messages from any thread and ships them to a server. A message is refused when as
many wait as may wait.

A flush waits for a barrier behind the messages accepted before it. Flushes between which no message
was accepted share one barrier, so flushing again and again while the server cannot be reached does
not fill the queue. The barriers are put into the queue by a worker of their own.
-/

namespace LogShipping

namespace Uplink

/-- The barrier made last, and how many messages had been accepted when it was made. -/
structure Latest where
  id : Nat
  acceptedAt : UInt64
  deriving DecidableEq

def relayAct (id : Nat) (backlog : Backlog Parcel) : Worker.Progress Nat (Backlog Parcel) :=
  .finished (backlog.pushUncounted (.barrier id))

end Uplink

structure Uplink where
  shipper : Uplink.Shipper
  accepted : UInt64
  latest : Option Uplink.Latest
  barriers : Nat
  relay : Worker Nat
  throttle : Throttle

namespace Uplink

def new (settings : Settings) (now : Nat) : Uplink where
  shipper := .new settings
  accepted := 0
  latest := none
  barriers := 0
  relay := .new
  throttle := .new settings.warnInterval.millis now

def settings (u : Uplink) : Settings :=
  u.shipper.settings

def backlog (u : Uplink) : Backlog Parcel :=
  u.shipper.backlog

def stage (u : Uplink) : Stage :=
  u.shipper.published

def waiting (u : Uplink) : Nat :=
  u.backlog.size

def journal (u : Uplink) : List Event :=
  u.shipper.journal

def onShipper (f : Shipper → Shipper) (u : Uplink) : Uplink :=
  { u with shipper := f u.shipper }

def withBacklog (backlog : Backlog Parcel) (u : Uplink) : Uplink :=
  u.onShipper fun s => { s with backlog }

/-! The indivisible steps of sending. -/

def admit? (u : Uplink) : Option Uplink :=
  (u.backlog.admit? u.settings.maxWaiting).map u.withBacklog

def store (message : String) (u : Uplink) : Uplink :=
  u.withBacklog (u.backlog.store ⟨.text message, true⟩)

def countAccepted (u : Uplink) : Uplink :=
  { u with accepted := u.accepted + 1 }

/-- Counts a refused message, and tells if it is time. -/
def countRefusal (now : Nat) (u : Uplink) : Uplink :=
  let (throttle, report) := u.throttle.drop now
  let u := { u with throttle }
  match report with
  | some count => u.onShipper (Shipper.note (.queueFull count))
  | none => u

/-- Whether the message was taken. An empty one is, and is not sent. -/
def trySend (now : Nat) (message : String) (u : Uplink) : Uplink × Bool :=
  if message.isEmpty then (u, true)
  else
    match u.admit? with
    | some u => ((u.store message).countAccepted, true)
    | none => (u.countRefusal now, false)

def add (now : Nat) (r : Record) (u : Uplink) : Uplink × Except Refusal Unit :=
  let (u, taken) := u.trySend now (Gelf.encode r)
  (u, if taken then .ok () else .error .queueFull)

/-! The indivisible steps of flushing. -/

def reportRefusals (now : Nat) (u : Uplink) : Uplink :=
  let (throttle, report) := u.throttle.flush now
  let u := { u with throttle }
  match report with
  | some count => u.onShipper (Shipper.note (.dropped count))
  | none => u

def shared? (accepted : UInt64) (u : Uplink) : Option Nat :=
  u.latest.bind fun latest => if latest.acceptedAt = accepted then some latest.id else none

def makeBarrier (u : Uplink) : Uplink × Nat :=
  ({ u with barriers := u.barriers + 1, relay := u.relay.submit u.barriers }, u.barriers)

def remember (latest : Latest) (u : Uplink) : Uplink :=
  { u with latest := some latest }

/-- The barrier for the messages accepted so far. -/
def askFlush (u : Uplink) : Uplink × Nat :=
  match u.shared? u.accepted with
  | some id => (u, id)
  | none =>
    let (made, id) := u.makeBarrier
    (made.remember ⟨id, u.accepted⟩, id)

def isReleased (id : Nat) (u : Uplink) : Bool :=
  u.shipper.released.contains id

def relayStep? (u : Uplink) : Option Uplink :=
  (u.relay.step? relayAct u.backlog).map fun (relay, backlog) => { u.withBacklog backlog with relay }

def relayAll (u : Uplink) : Uplink :=
  let (relay, backlog) := u.relay.settle relayAct (fun _ => 1) u.backlog
  { u.withBacklog backlog with relay }

def step (o : Outside) (u : Uplink) : Uplink :=
  u.onShipper (Shipper.step o)

/-- Stops the shipper, and lets the flush worker finish. What waits is not sent. -/
def retire (tick : Tick) (u : Uplink) : Uplink :=
  let u := u.step { tick, shutdown := true }
  { u with relay := u.relay.retire }.relayAll

def inspect (u : Uplink) : String :=
  Inspect.parts "GraylogConnection"
    [("target", Inspect.quoted u.settings.target),
      ("status", u.stage.name),
      ("queue_size", decimalText u.waiting)]
    false

def inspectHandler (u : Uplink) : String :=
  Inspect.parts "GraylogHandler" [("connection", u.inspect)] false

end Uplink

end LogShipping
