import LogShipping.Device.Buffered
import LogShipping.Dispatcher.Chronicle
import LogShipping.Dispatcher.Outlet
import LogShipping.Sink.Service
import LogShipping.Uplink.Threads

/-!
Targets that others use besides the dispatcher: sinks with callers and a worker of their own,
uplinks with all their threads, and targets of any other kind. The dispatcher is the first caller of
each of them, and it takes one step of its call at a time. A flush that it asks of an uplink is one
more thread of the uplink.
-/

namespace LogShipping

namespace Uplink

variable (s : Threads Shared Point)

/-- The first thread goes on with the message. Once its call is over, it is told how, and where the
message stands among those stored. -/
def handIn (now : Nat) (message : String) : Threads Shared Point × Option (Except Refusal Nat) :=
  match (s.points[0]? : Option Point) with
  | some (.admitted message') =>
    if message' = message then (s.step act 0 .resume, none) else (s, none)
  | some (.stored place) =>
    if s.shared.order[place]? = some message then (s.step act 0 .resume, some (.ok place))
    else (s, none)
  | _ =>
    let next := s.step act 0 (.send now message)
    (next, if next.points[0]? = some .idle then some (.error .queueFull) else none)

/-- A new thread begins a flush, and its number is the ticket. -/
def joinFlush (now : Nat) : Threads Shared Point × Nat :=
  ({ shared := { s.shared with uplink := s.shared.uplink.reportRefusals now }
     points := s.points ++ [.flushing s.shared.accepted] },
    s.points.length)

def flushAnswer? (ticket : Nat) : Option Bool :=
  match s.points[ticket]? with
  | some (.waiting id _) => if s.shared.uplink.isReleased id then some true else none
  | _ => none

def Turn.aside : Turn → Turn
  | caller i move => .caller (i + 1) move
  | turn => turn

end Uplink

/-- A target and the places that the dispatcher's records have among all records that it took. -/
inductive Station (μ K : Type) where
  | stream (s : LineSink.Service μ) (places : List Nat)
  | file (s : LineSink.Service Device.Buffered) (places : List Nat)
  | uplink (s : Threads Uplink.Shared Uplink.Point) (places : List Nat)
  | other (target : K)

namespace Station

variable {μ K ω : Type}

inductive Setup (μ K : Type) where
  | stream (device : μ) (layout : Layout) (capacity now : Nat) (isConsole : Bool) (callers : Nat)
  | file (device : Device.Buffered) (layout : Layout) (capacity now callers : Nat)
  | uplink (settings : Uplink.Settings) (now threads : Nat)
  | other (target : K)

def build : Setup μ K → Station μ K
  | .stream device layout capacity now isConsole callers =>
    stream (.start { LineSink.new (.of device) layout capacity now with
      name := LineSink.streamName, isConsole } (callers + 1)) []
  | .file device layout capacity now callers =>
    file (.start { LineSink.new (.of device) layout capacity now with
      name := LineSink.fileName, isConsole := false } (callers + 1)) []
  | .uplink settings now threads => uplink (.start (.new settings now) .idle (threads + 1)) []
  | .other target => other target

inductive Deed (μ ω : Type) where
  /-- Another caller of a sink goes on. -/
  | call (i now : Nat) (move : LineSink.Move)
  | work
  | device (change : μ → μ)
  | disk (change : Device.Buffered → Device.Buffered)
  /-- Another thread of an uplink takes a step. -/
  | turn (turn : Uplink.Turn)
  | other (deed : ω)

section Target

variable [Target K]

/-- What is answered to an offer, and where the record stands if it was taken. -/
def reply (station : List Nat → Station μ K) (places : List Nat) :
    Option (Except Refusal Nat) → Offer (Station μ K)
  | none => .begun (station places)
  | some (.ok place) => .answered (station (places ++ [place])) (.ok ())
  | some (.error refusal) => .answered (station places) (.error refusal)

def offer (now : Nat) (r : Record) : Station μ K → Offer (Station μ K)
  | stream s places =>
    let (s, result) := s.handIn now r
    reply (stream s) places result
  | file s places =>
    let (s, result) := s.handIn now r
    reply (file s) places result
  | uplink s places =>
    let (s, result) := Uplink.handIn s now (Gelf.encode r)
    reply (uplink s) places result
  | other target =>
    match Target.offer now r target with
    | .answered target result => .answered (other target) result
    | .begun target => .begun (other target)
    | .notReady => .notReady

def wait : LineSink.Wait :=
  ⟨.start, Outlet.patience⟩

def askFlush (now : Nat) : Station μ K → Station μ K × Option Nat
  | stream s places =>
    let (s, ticket) := s.askFlush now wait
    (stream s places, ticket)
  | file s places =>
    let (s, ticket) := s.askFlush now wait
    (file s places, ticket)
  | uplink s places =>
    let (s, ticket) := Uplink.joinFlush s now
    (uplink s places, some ticket)
  | other target =>
    let (target, ticket) := Target.askFlush now target
    (other target, ticket)

def answer? (ticket : Nat) : Station μ K → Option Bool
  | stream s _ => s.sink.answer? ticket
  | file s _ => s.sink.answer? ticket
  | uplink s _ => Uplink.flushAnswer? s ticket
  | other target => Target.answer? ticket target

/-- What a station does by itself is told by its deeds. -/
def settle : Station μ K → Station μ K
  | other target => other (Target.settle target)
  | station => station

def waiting : Station μ K → Nat
  | stream s _ => s.sink.waiting
  | file s _ => s.sink.waiting
  | uplink s _ => s.shared.uplink.waiting
  | other target => Target.waiting target

def isConsole : Station μ K → Bool
  | stream s _ => s.sink.isConsole
  | other target => Target.isConsole target
  | _ => false

instance : Target (Station μ K) where
  offer := offer
  askFlush := askFlush
  answer? := answer?
  settle := settle
  waiting := waiting
  isConsole := isConsole

end Target

def perform [Device μ] (own : ω → K → K) : Deed μ ω → Station μ K → Station μ K
  | .call i now move, stream s places => stream (s.step (.call (i + 1) now move)) places
  | .call i now move, file s places => file (s.step (.call (i + 1) now move)) places
  | .work, stream s places => stream (s.step .work) places
  | .work, file s places => file (s.step .work) places
  | .device change, stream s places => stream (s.step (.device change)) places
  | .disk change, file s places => file (s.step (.device change)) places
  | .turn turn, uplink s places => uplink (turn.aside.take s) places
  | .other deed, other target => other (own deed target)
  | _, station => station

end Station

/-- A dispatcher and its stations, as they are set up. -/
structure Pipeline (μ K : Type) where
  origin : Origin
  setups : List (Station.Setup μ K)
  capacity : Nat
  now : Nat
  callers : Nat

namespace Pipeline

open Dispatcher (Chronicle Turn)

variable {μ K ω : Type} [Device μ] [Target K]

def start (p : Pipeline μ K) : Chronicle (Station μ K) :=
  .start p.origin (p.setups.map Station.build) p.capacity p.now p.callers

def reached (own : ω → K → K) (turns : List (Turn (Station.Deed μ ω))) (p : Pipeline μ K) :
    Chronicle (Station μ K) :=
  p.start.run (Station.perform own) turns

end Pipeline

end LogShipping
