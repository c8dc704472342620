import LogShipping.Dispatcher.Threads
import LogShipping.Worker.History

namespace LogShipping

variable {H ω : Type}

/-- What a target does by itself, it is not offered. -/
def Watched.own (own : ω → H → H) (deed : ω) (w : Watched H) : Watched H :=
  { w with target := own deed w.target }

def Watched.offered (w : Watched H) : List Record :=
  w.offers.map Prod.fst

namespace Dispatcher

def taken (offers : List (Record × Except Refusal Unit)) : List Record :=
  offers.filterMap fun
    | (r, .ok ()) => some r
    | _ => none

def Job.draft? : Job → Option (Draft × Fields)
  | dispatch draft base => some (draft, base)
  | _ => none

def undispatched (w : Worker Job) : List (Draft × Fields) :=
  w.pending.filterMap Job.draft?

/-- The offers of the record on its way that the target at place `i` has still to get. -/
def owed (i : Nat) (w : Worker Job) : List Record :=
  match w.activity with
  | .busy (.deliver record rest) => List.replicate (rest.count i) record
  | _ => []

/-- The draft that a turn hands in, with the base fields of that moment: one that passes the
threshold of that moment, when fewer jobs wait than may wait. -/
def handedIn (turn : Turn ω) (s : Threads (Shared H) Point) : List (Draft × Fields) :=
  match turn with
  | .caller i (.log _ draft) =>
    let d := s.shared.dispatcher
    if s.points[i]? = some .idle ∧ draft.severity.passes d.threshold ∧
        d.worker.jobs.length < d.capacity then
      [(draft, d.base)]
    else []
  | _ => []

def sending (w : Worker Job) (scene : Scene H) : List (Record × List Nat) :=
  match w.activity with
  | .busy (.dispatch draft base) => [(draft.complete scene.origin base, scene.registered)]
  | _ => []

def sentOut (turn : Turn ω) (s : Threads (Shared H) Point) : List (Record × List Nat) :=
  match turn with
  | .worker => sending s.shared.dispatcher.worker s.shared.dispatcher.scene
  | _ => []

structure Chronicle (H : Type) where
  threads : Threads (Shared (Watched H)) Point
  admitted : List (Draft × Fields)
  dispatched : List (Record × List Nat)

namespace Chronicle

def start (origin : Origin) (targets : List H) (capacity now callers : Nat) : Chronicle H where
  threads :=
    .start (.new ((new origin capacity now).onScene fun scene =>
      { scene with targets := targets.map .of })) .idle callers
  admitted := []
  dispatched := []

def dispatcher (c : Chronicle H) : Dispatcher (Watched H) :=
  c.threads.shared.dispatcher

def offered (c : Chronicle H) : List (List Record) :=
  c.dispatcher.targets.map Watched.offered

variable [Target H]

def step (own : ω → H → H) (turn : Turn ω) (c : Chronicle H) : Chronicle H :=
  let threads := turn.take (Watched.own own) c.threads
  { threads
    admitted := c.admitted ++ handedIn turn c.threads
    dispatched := c.dispatched ++ sentOut turn c.threads }

def run (own : ω → H → H) (turns : List (Turn ω)) (c : Chronicle H) : Chronicle H :=
  turns.foldl (fun c turn => c.step own turn) c

theorem run_concat (own : ω → H → H) (turns : List (Turn ω)) (turn : Turn ω) (c : Chronicle H) :
    c.run own (turns ++ [turn]) = (c.run own turns).step own turn := by
  simp [run]

theorem run_append_cons (own : ω → H → H) (earlier : List (Turn ω)) (turn : Turn ω)
    (later : List (Turn ω)) (c : Chronicle H) :
    c.run own (earlier ++ turn :: later) = ((c.run own earlier).step own turn).run own later := by
  simp [run]

theorem run_induction {own : ω → H → H} {P : Chronicle H → Prop}
    (keep : ∀ c turn, P c → P (c.step own turn)) (turns : List (Turn ω)) {c : Chronicle H}
    (h : P c) : P (c.run own turns) :=
  List.foldlRecOn turns _ h fun c h turn _ => keep c turn h

end Chronicle

end Dispatcher

end LogShipping
