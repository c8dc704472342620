import LogShipping.Backlog
import LogShipping.Threads

/-!
A queue used by many threads at once. Getting a place in the counter and storing the item are two
steps, and so are taking an entry out and giving its place back. Between them the counter and the
entries disagree.
-/

namespace LogShipping.Backlog

inductive Point (α : Type) where
  | idle
  /-- Counted, and not yet stored. -/
  | admitted (item : α)
  /-- Taken out, and its place not yet given back. -/
  | withdrawn (entry : Entry α)
  deriving DecidableEq

inductive Move (α : Type) where
  | tryPush (item : α)
  | pushUncounted (item : α)
  | pop
  | resume
  deriving DecidableEq

inductive Outcome (α : Type) where
  | pushed (item : α)
  | rejected (item : α)
  | popped (item : α)
  deriving DecidableEq

structure Shared (α : Type) where
  backlog : Backlog α
  outcomes : List (Outcome α)
  deriving DecidableEq

variable {α : Type}

def Shared.finish (outcome : Outcome α) (s : Shared α) : Shared α :=
  { s with outcomes := s.outcomes ++ [outcome] }

/-- The steps of the calls, of which those that may be rejected respect the same limit. -/
def act (limit : Nat) (move : Move α) (point : Point α) (s : Shared α) :
    Option (Point α × Shared α) :=
  match move, point with
  | .tryPush item, .idle =>
    match s.backlog.admit? limit with
    | some backlog => some (.admitted item, { s with backlog })
    | none => some (.idle, s.finish (.rejected item))
  | .pushUncounted item, .idle =>
    some (.idle, { s with backlog := s.backlog.pushUncounted item })
  | .pop, .idle =>
    s.backlog.take?.map fun (entry, backlog) => (.withdrawn entry, { s with backlog })
  | .resume, .admitted item =>
    some (.idle, { s with backlog := s.backlog.store ⟨item, true⟩ }.finish (.pushed item))
  | .resume, .withdrawn entry =>
    some (.idle, { s with backlog := s.backlog.discount entry }.finish (.popped entry.item))
  | _, _ => none

/-- How much of the counter is for an item that is not stored. -/
def Point.held : Point α → Nat
  | idle => 0
  | admitted _ => 1
  | withdrawn entry => if entry.counted then 1 else 0

/-- A call that nobody interrupts is the call as a whole. -/
theorem run_tryPush (limit : Nat) (item : α) (s : Shared α) :
    ((Threads.start s .idle 1).run (act limit) [(0, .tryPush item), (0, .resume)]).shared =
      match s.backlog.tryPush? limit item with
      | some backlog => { s with backlog }.finish (.pushed item)
      | none => s.finish (.rejected item) := by
  by_cases h : s.backlog.size < limit <;>
    simp [Threads.start, Threads.step, act, admit?, tryPush?, h, Shared.finish]

theorem run_pop (limit : Nat) (s : Shared α) :
    ((Threads.start s .idle 1).run (act limit) [(0, .pop), (0, .resume)]).shared =
      match s.backlog.pop? with
      | some (item, backlog) => { s with backlog }.finish (.popped item)
      | none => s := by
  cases h : s.backlog.take? <;>
    simp [Threads.start, Threads.step, act, pop?, h, Shared.finish]

end LogShipping.Backlog
