import LogShipping.Uplink

/-!
An uplink in a network that does as it is told. Lookups are answered one at a time by answers laid
out beforehand, some endpoints can be reached, connections take whatever they are offered, and
timers fire at once unless they are set for longer than the rehearsal lasts.
-/

namespace LogShipping.Uplink

open Network

structure Rehearsal where
  uplink : Uplink
  /-- Answers to lookups not yet made. -/
  answers : List (Except String (List Endpoint))
  reachable : Endpoint → Bool
  tick : Tick
  /-- The longest wait that is sat out. -/
  patience : Span

namespace Rehearsal

def new (settings : Settings) (reachable : Endpoint → Bool) (now : Nat) : Rehearsal where
  uplink := .new settings now
  answers := []
  reachable
  tick := .start
  patience := .ofSeconds 1

def phase (r : Rehearsal) : Phase :=
  r.uplink.shipper.phase

def isConnected (r : Rehearsal) : Bool :=
  r.uplink.stage == .sendLoop

/-- The clock after sitting out the wait, if it is not too long. -/
def clock (r : Rehearsal) : Tick :=
  match r.phase with
  | .retryWait deadline =>
    match r.tick.add? r.patience with
    | some limit => if limit.reaches deadline then deadline else r.tick
    | none => r.tick
  | _ => r.tick

/-- One step of the shipper, in which `read` is what the connection answers. -/
def step (read : ReadReply) (r : Rehearsal) : Rehearsal :=
  let tick := r.clock
  let isLookup := r.phase.stage == .addressLookup
  let outside : Outside :=
    { tick, found := if isLookup then r.answers.head? else none, reachable := r.reachable, read }
  { r with
    uplink := r.uplink.step outside
    tick
    answers := if isLookup then r.answers.drop 1 else r.answers }

def steps : Nat → Rehearsal → Rehearsal
  | 0, r => r
  | n + 1, r => steps n (r.step .nothingYet)

/-- Lets the shipper run until it waits for a lookup or a long timer, or has sent everything. -/
def settle (r : Rehearsal) : Rehearsal :=
  let r := { r with uplink := r.uplink.relayAll }
  let stepsFor (answer : Except String (List Endpoint)) : Nat :=
    match answer with
    | .ok found => found.length + 6
    | .error _ => 6
  steps (r.answers.foldl (fun count answer => count + stepsFor answer)
    (r.uplink.backlog.entries.length + 6)) r

def answer (found : Except String (List Endpoint)) (r : Rehearsal) : Rehearsal :=
  { r with answers := r.answers ++ [found] }.settle

def trySend (now : Nat) (message : String) (r : Rehearsal) : Rehearsal × Bool :=
  let (uplink, taken) := r.uplink.trySend now message
  ({ r with uplink }.settle, taken)

def add (now : Nat) (record : Record) (r : Rehearsal) : Rehearsal × Except Refusal Unit :=
  let (uplink, result) := r.uplink.add now record
  ({ r with uplink }.settle, result)

/-- Whether the barrier was reached before the uplink came to rest. -/
def flush (now : Nat) (r : Rehearsal) : Rehearsal × Bool :=
  let (uplink, id) := (r.uplink.reportRefusals now).askFlush
  let r := { r with uplink }.settle
  (r, r.uplink.isReleased id)

def hangUp (r : Rehearsal) : Rehearsal :=
  (r.step .closed).settle

def lookups (r : Rehearsal) : Nat :=
  1 + r.uplink.journal.countP fun event =>
    match event with
    | .moved _ .addressLookup => true
    | _ => false

/-- All bytes that servers have been sent, over all connections. -/
def received (r : Rehearsal) : List UInt8 :=
  r.uplink.shipper.links.flatMap Link.written

end Rehearsal

end LogShipping.Uplink
