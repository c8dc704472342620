import LogShipping.Uplink.Threads

/-!
Threads that hand records to an uplink, flush it, or both. A record is sent as its GELF text, in the
steps of a sender: its text is admitted, stored and counted, and then the thread is told that the
record was taken. All other steps are those of the uplink's threads.
-/

namespace LogShipping.Uplink.Intake

inductive Point where
  /-- The record's text is admitted, and not yet stored. -/
  | admitted (r : Record)
  /-- The text is stored at this place, and its thread has not been told yet. -/
  | stored (r : Record) (place : Nat)
  | other (point : Uplink.Point)
  deriving DecidableEq

inductive Move where
  | add (now : Nat) (r : Record)
  | flush (now : Nat)
  | resume
  | giveUp
  deriving DecidableEq

structure Shared where
  core : Uplink.Shared
  /-- The records whose texts were stored, in the order of the texts. -/
  stored : List Record
  /-- What threads were told of the records that they handed in, oldest first. -/
  results : List (Record × Except Refusal Unit)

namespace Shared

def new (settings : Settings) (now : Nat) : Shared :=
  ⟨.new settings now, [], []⟩

def onUplink (f : Uplink → Uplink) (s : Shared) : Shared :=
  { s with core := { s.core with uplink := f s.core.uplink } }

def store (r : Record) (s : Shared) : Shared :=
  { s with core := s.core.store (Gelf.encode r), stored := s.stored ++ [r] }

def tell (r : Record) (result : Except Refusal Unit) (s : Shared) : Shared :=
  { s with results := s.results ++ [(r, result)] }

def accepted (s : Shared) : List Record :=
  s.results.filterMap fun (r, result) =>
    match result with
    | .ok () => some r
    | .error _ => none

end Shared

def otherStep (move : Uplink.Move) (point : Uplink.Point) (s : Shared) : Option (Point × Shared) :=
  (Uplink.act move point s.core).map fun (point, core) => (.other point, { s with core })

def act (move : Move) (point : Point) (s : Shared) : Option (Point × Shared) :=
  match move, point with
  | .add now r, .other .idle =>
    match s.core.uplink.admit? with
    | some uplink => some (.admitted r, s.onUplink fun _ => uplink)
    | none => some (.other .idle, (s.onUplink (countRefusal now)).tell r (.error .queueFull))
  | .resume, .admitted r => some (.stored r s.core.order.length, s.store r)
  | .resume, .stored r place =>
    some (.other .idle, { s with core := s.core.countAccepted place }.tell r (.ok ()))
  | .flush now, .other point => otherStep (.flush now) point s
  | .resume, .other point => otherStep .resume point s
  | .giveUp, .other point => otherStep .giveUp point s
  | _, _ => none

inductive Turn where
  | caller (i : Nat) (move : Move)
  | relay
  | network (o : Outside)

def Turn.take (turn : Turn) (s : Threads Shared Point) : Threads Shared Point :=
  match turn with
  | caller i move => s.step act i move
  | relay => { s with shared := s.shared.onUplink fun u => u.relayStep?.getD u }
  | network o => { s with shared := s.shared.onUplink (Uplink.step o) }

def runTurns (turns : List Turn) (s : Threads Shared Point) : Threads Shared Point :=
  turns.foldl (fun s turn => Turn.take turn s) s

theorem runTurns_induction {P : Threads Shared Point → Prop}
    (keep : ∀ s turn, P s → P (Turn.take turn s)) (turns : List Turn) {s : Threads Shared Point}
    (h : P s) : P (runTurns turns s) :=
  List.foldlRecOn turns _ h fun s h turn _ => keep s turn h

/-- A record that nobody interrupts is handed in as a whole. -/
theorem runTurns_add (now : Nat) (r : Record) (s : Shared) :
    let next := (runTurns [.caller 0 (.add now r), .caller 0 .resume, .caller 0 .resume]
      (.start s (.other .idle) 1)).shared
    (next.core.uplink, next.results) =
      ((s.core.uplink.add now r).1, s.results ++ [(r, (s.core.uplink.add now r).2)]) := by
  have hempty : (Gelf.encode r).isEmpty = false := by
    simpa using Gelf.encode_ne_empty r
  cases h : s.core.uplink.admit? <;>
    simp [runTurns, Turn.take, Threads.start, Threads.step, act, otherStep, Uplink.act, add, trySend,
      hempty, h, Shared.onUplink, Shared.tell, Shared.store, Uplink.Shared.store,
      Uplink.Shared.countAccepted]

end LogShipping.Uplink.Intake
