import LogShipping.Device.Scripted
import LogShipping.Dispatcher
import LogShipping.Sink.FileSink
import LogShipping.Uplink

namespace LogShipping

/-- Keeps the records it is given, up to its capacity, and answers a flush as it was told to. -/
structure Collector where
  capacity : Option Nat := none
  records : List Record := []
  flushResult : Bool := true

def Collector.add (r : Record) (c : Collector) : Collector × Except Refusal Unit :=
  match c.capacity with
  | some capacity =>
    if capacity ≤ c.records.length then (c, .error .queueFull)
    else ({ c with records := c.records ++ [r] }, .ok ())
  | none => ({ c with records := c.records ++ [r] }, .ok ())

inductive Outlet where
  | collector (c : Collector)
  | gate (isOpen : Bool)
  | lines (s : LineSink Device.Scripted)
  | file (s : FileSink)
  | uplink (u : Uplink)

namespace Outlet

def offer (now : Nat) (r : Record) : Outlet → Offer Outlet
  | collector c =>
    let (c, result) := c.add r
    .answered (collector c) result
  | gate isOpen => if isOpen then .answered (gate isOpen) (.ok ()) else .notReady
  | lines s =>
    let (s, result) := s.add now r
    .answered (lines s) result
  | file s =>
    let (s, result) := s.add now r
    .answered (file s) result
  | uplink u =>
    let (u, result) := u.add now r
    .answered (uplink u) result

def patience : Span := .ofSeconds 5

/-- Collectors and gates have an answer ready, and one ticket for all flushes. -/
def askFlush (now : Nat) : Outlet → Outlet × Option Nat
  | collector c => (collector c, some 0)
  | gate isOpen => (gate isOpen, some 0)
  | lines s =>
    let (s, ticket) := s.askFlush now .start patience
    (lines s, ticket)
  | file s =>
    let (s, ticket) := s.askFlush now .start patience
    (file s, ticket)
  | uplink u =>
    let (u, id) := (u.reportRefusals now).askFlush
    (uplink u, some id)

def answer? (ticket : Nat) : Outlet → Option Bool
  | collector c => some c.flushResult
  | gate _ => some true
  | lines s => s.answer? ticket
  | file s => s.lines.answer? ticket
  | uplink u => if u.isReleased ticket then some true else none

/-- Of an uplink only the flush worker can move without the network. -/
def settle : Outlet → Outlet
  | lines s => lines s.settle
  | file s => file s.settle
  | uplink u => uplink u.relayAll
  | outlet => outlet

def waiting : Outlet → Nat
  | lines s => s.waiting
  | file s => s.lines.waiting
  | uplink u => u.waiting
  | _ => 0

def isConsole : Outlet → Bool
  | lines s => s.isConsole
  | _ => false

instance : Target Outlet where
  offer := offer
  askFlush := askFlush
  answer? := answer?
  settle := settle
  waiting := waiting
  isConsole := isConsole

/-- What happens at an outlet without the dispatcher. -/
inductive Deed where
  /-- A worker of its own takes a step. -/
  | work
  /-- The shipper of an uplink takes a step. -/
  | ship (o : Uplink.Outside)
  /-- Somebody else hands a record in. -/
  | add (now : Nat) (r : Record)
  /-- Somebody else asks for a flush. -/
  | flush (now : Nat)

def perform : Deed → Outlet → Outlet
  | .work, lines s => lines (s.work?.getD s)
  | .work, file s => file (s.work?.getD s)
  | .work, uplink u => uplink (u.relayStep?.getD u)
  | .ship o, uplink u => uplink (u.step o)
  | .add now r, outlet =>
    match outlet.offer now r with
    | .answered outlet _ => outlet
    | .begun outlet => outlet
    | .notReady => outlet
  | .flush now, outlet => (outlet.askFlush now).1
  | _, outlet => outlet

/-- Everything the target has told the program's own log, oldest first. -/
def warnings : Outlet → List String
  | lines s => s.journal.map (LineSink.Notice.text s.name)
  | file s => s.lines.journal.map (LineSink.Notice.text s.lines.name)
  | uplink u => (u.journal.filter Uplink.Event.isWarning).map (Uplink.Event.text u.settings)
  | _ => []

def written : Outlet → List UInt8
  | lines s => s.scene.device.written
  | _ => []

def isGate : Outlet → Bool
  | gate _ => true
  | _ => false

end Outlet

end LogShipping
