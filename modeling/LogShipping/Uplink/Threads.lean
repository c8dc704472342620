import LogShipping.Threads
import LogShipping.Uplink

/-!
An uplink used by many threads at once. A sender is admitted, stores its message and counts it, in
three steps. A flush locks the latest barrier, reads how many messages have been counted, and then
shares that barrier or makes one of its own; it waits without the lock. The flush worker and the
shipper take turns with the callers.

A message is known by its place in the order in which messages were stored.
-/

namespace LogShipping.Uplink

inductive Point where
  | idle
  /-- Counted by the queue, and not yet stored. -/
  | admitted (message : String)
  /-- Stored, and not yet counted as accepted. -/
  | stored (place : Nat)
  /-- In a flush that has to wait for the messages at the places `promised`. -/
  | flushing (promised : List Nat)
  | locked (promised : List Nat)
  /-- To make a barrier, with `accepted` messages counted. -/
  | making (accepted : UInt64) (promised : List Nat)
  /-- To remember the barrier it has made. -/
  | made (latest : Latest) (promised : List Nat)
  | waiting (id : Nat) (promised : List Nat)
  deriving DecidableEq

inductive Move where
  | send (now : Nat) (message : String)
  | flush (now : Nat)
  | resume
  /-- The time of a flush is up. -/
  | giveUp
  deriving DecidableEq

/-- How a flush ended that had to wait for the messages at the places `promised`. -/
structure FlushOutcome where
  promised : List Nat
  flushed : Bool
  deriving DecidableEq

structure Shared where
  uplink : Uplink
  /-- Whether a flush holds the latest barrier. -/
  isLocked : Bool
  /-- All messages stored so far, oldest first. -/
  order : List String
  /-- The places of the messages that their senders know to be accepted. -/
  accepted : List Nat
  /-- How many messages had been counted when each barrier was made, oldest first. -/
  marks : List UInt64
  /-- How flushes have ended so far, oldest first. -/
  flushes : List FlushOutcome

namespace Shared

def new (settings : Settings) (now : Nat) : Shared where
  uplink := .new settings now
  isLocked := false
  order := []
  accepted := []
  marks := []
  flushes := []

def shipped (s : Shared) : List String :=
  s.uplink.shipper.links.flatMap Link.taken

def store (message : String) (s : Shared) : Shared :=
  { s with uplink := s.uplink.store message, order := s.order ++ [message] }

def countAccepted (place : Nat) (s : Shared) : Shared :=
  { s with uplink := s.uplink.countAccepted, accepted := s.accepted ++ [place] }

def finish (promised : List Nat) (flushed : Bool) (s : Shared) : Shared :=
  { s with flushes := s.flushes ++ [⟨promised, flushed⟩] }

end Shared

/-- Counting a refusal and the report that may follow are one step here, and so is the report that a
flush makes. Their own steps are those of `Throttle.act`. -/
def act (move : Move) (point : Point) (s : Shared) : Option (Point × Shared) :=
  match move, point with
  | .send now message, .idle =>
    if message.isEmpty then some (.idle, s)
    else
      match s.uplink.admit? with
      | some uplink => some (.admitted message, { s with uplink })
      | none => some (.idle, { s with uplink := s.uplink.countRefusal now })
  | .resume, .admitted message => some (.stored s.order.length, s.store message)
  | .resume, .stored place => some (.idle, s.countAccepted place)
  | .flush now, .idle =>
    some (.flushing s.accepted, { s with uplink := s.uplink.reportRefusals now })
  | .resume, .flushing promised =>
    if s.isLocked then none else some (.locked promised, { s with isLocked := true })
  | .resume, .locked promised =>
    let accepted := s.uplink.accepted
    match s.uplink.shared? accepted with
    | some id => some (.waiting id promised, { s with isLocked := false })
    | none => some (.making accepted promised, { s with marks := s.marks ++ [accepted] })
  | .resume, .making accepted promised =>
    let (uplink, id) := s.uplink.makeBarrier
    some (.made ⟨id, accepted⟩ promised, { s with uplink })
  | .resume, .made latest promised =>
    some (.waiting latest.id promised,
      { s with uplink := s.uplink.remember latest, isLocked := false })
  | .resume, .waiting id promised =>
    if s.uplink.isReleased id then some (.idle, s.finish promised true) else none
  | .giveUp, .waiting _ promised => some (.idle, s.finish promised false)
  | _, _ => none

inductive Turn where
  | caller (i : Nat) (move : Move)
  | relay
  | network (o : Outside)

def Turn.take (turn : Turn) (s : Threads Shared Point) : Threads Shared Point :=
  match turn with
  | caller i move => s.step act i move
  | relay =>
    match s.shared.uplink.relayStep? with
    | some uplink => { s with shared := { s.shared with uplink } }
    | none => s
  | network o => { s with shared := { s.shared with uplink := s.shared.uplink.step o } }

def runTurns (turns : List Turn) (s : Threads Shared Point) : Threads Shared Point :=
  turns.foldl (fun s turn => Turn.take turn s) s

theorem runTurns_induction {P : Threads Shared Point → Prop}
    (keep : ∀ s turn, P s → P (Turn.take turn s)) (turns : List Turn) {s : Threads Shared Point}
    (h : P s) : P (runTurns turns s) :=
  List.foldlRecOn turns _ h fun s h turn _ => keep s turn h

/-- A sender that nobody interrupts sends as a whole. -/
theorem runTurns_send (now : Nat) (message : String) (s : Shared) :
    (runTurns [.caller 0 (.send now message), .caller 0 .resume, .caller 0 .resume]
      (.start s .idle 1)).shared.uplink = (s.uplink.trySend now message).1 := by
  by_cases hempty : message = ""
  · simp [runTurns, Turn.take, Threads.start, Threads.step, act, trySend, hempty]
  · cases h : s.uplink.admit? <;>
      simp [runTurns, Turn.take, Threads.start, Threads.step, act, trySend, hempty, h,
        Shared.store, Shared.countAccepted]

/-- A flush that nobody interrupts finds its barrier as a whole. -/
theorem runTurns_flush (now : Nat) (s : Shared) (h : s.isLocked = false) :
    (runTurns (.caller 0 (.flush now) :: List.replicate 4 (.caller 0 .resume))
      (.start s .idle 1)).shared.uplink = (s.uplink.reportRefusals now).askFlush.1 := by
  cases hs : (s.uplink.reportRefusals now).shared? (s.uplink.reportRefusals now).accepted with
  | some id =>
      by_cases hr : (s.uplink.reportRefusals now).isReleased id <;>
        simp [runTurns, Turn.take, Threads.start, Threads.step, act, askFlush, List.replicate, h,
          hs, hr, Shared.finish]
  | none =>
      simp [runTurns, Turn.take, Threads.start, Threads.step, act, askFlush, List.replicate, h, hs]

end LogShipping.Uplink
