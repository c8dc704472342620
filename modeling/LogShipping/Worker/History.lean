import LogShipping.Worker

namespace LogShipping.Worker

variable {J σ : Type}

def Task.job? : Task J → Option J
  | run job => some job
  | stop => none

def jobs (w : Worker J) : List J :=
  w.backlog.items.filterMap Task.job?

def hand (w : Worker J) : List J :=
  match w.activity with
  | .busy job => [job]
  | _ => []

/-- The job at hand and those that wait, in the order in which they are done. -/
def pending (w : Worker J) : List J :=
  w.hand ++ w.jobs

structure Shift (J σ : Type) where
  job : J
  before : σ
  after : σ

/-- What a list in the scene has gained while the job was done. -/
def Shift.gain {α : Type} (f : σ → List α) (shift : Shift J σ) : List α :=
  (f shift.after).drop (f shift.before).length

structure History (J σ : Type) where
  /-- The job at hand as it was when it was taken, and the scene then. -/
  begun : Option (J × σ)
  shifts : List (Shift J σ)

namespace History

def empty : History J σ := ⟨none, []⟩

def next (w : Worker J) (scene : σ) (h : History J σ) : History J σ :=
  match h.begun, w.activity with
  | none, .busy job => { h with begun := some (job, scene) }
  | some (job, before), .idle => ⟨none, h.shifts ++ [⟨job, before, scene⟩]⟩
  | _, _ => h

/-- Every job that was handed in, oldest first: those finished, the one at hand, those waiting. -/
def row (w : Worker J) (h : History J σ) : List J :=
  h.shifts.map Shift.job ++ (h.begun.map Prod.fst).toList ++ w.jobs

/-- The scene when the worker was last between two jobs. -/
def pause (scene : σ) (h : History J σ) : σ :=
  (h.begun.map Prod.snd).getD scene

end History

end LogShipping.Worker
