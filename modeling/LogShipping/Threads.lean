import Mathlib.Algebra.GroupWithZero.Nat

/-!
Threads that share a state and take turns. In a turn one thread does one indivisible step, and a
turn in which it cannot do so changes nothing. A schedule is a list of turns, so a statement about
all schedules is one about every way in which the threads can interleave.
-/

namespace LogShipping

/-- What the threads share, and the point at which each of them is. -/
structure Threads (σ π : Type) where
  shared : σ
  points : List π
  deriving DecidableEq

namespace Threads

variable {σ π μ : Type}

def start (shared : σ) (point : π) (count : Nat) : Threads σ π :=
  ⟨shared, List.replicate count point⟩

/-- Thread `i` makes a move, if it can. -/
def step (act : μ → π → σ → Option (π × σ)) (i : Nat) (move : μ) (s : Threads σ π) :
    Threads σ π :=
  match s.points[i]? with
  | none => s
  | some point =>
    match act move point s.shared with
    | none => s
    | some (point, shared) => ⟨shared, s.points.set i point⟩

def run (act : μ → π → σ → Option (π × σ)) (schedule : List (Nat × μ)) (s : Threads σ π) :
    Threads σ π :=
  schedule.foldl (fun s (i, move) => s.step act i move) s

def total (weight : π → Nat) (s : Threads σ π) : Nat :=
  (s.points.map weight).sum

@[simp] theorem run_nil (act : μ → π → σ → Option (π × σ)) (s : Threads σ π) :
    s.run act [] = s := rfl

@[simp] theorem run_cons (act : μ → π → σ → Option (π × σ)) (i : Nat) (move : μ)
    (schedule : List (Nat × μ)) (s : Threads σ π) :
    s.run act ((i, move) :: schedule) = (s.step act i move).run act schedule := rfl

theorem run_append (act : μ → π → σ → Option (π × σ)) (first second : List (Nat × μ))
    (s : Threads σ π) : s.run act (first ++ second) = (s.run act first).run act second := by
  simp [run]

theorem run_induction {act : μ → π → σ → Option (π × σ)} {P : Threads σ π → Prop}
    (keep : ∀ s i move, P s → P (s.step act i move)) (schedule : List (Nat × μ))
    {s : Threads σ π} (h : P s) : P (s.run act schedule) :=
  List.foldlRecOn schedule _ h fun s h turn _ => keep s turn.1 turn.2 h

theorem step_cases (act : μ → π → σ → Option (π × σ)) (i : Nat) (move : μ) (s : Threads σ π) :
    s.step act i move = s ∨
      ∃ point point' shared', s.points[i]? = some point ∧
        act move point s.shared = some (point', shared') ∧
        s.step act i move = ⟨shared', s.points.set i point'⟩ := by
  unfold step
  cases hp : s.points[i]? with
  | none => exact .inl rfl
  | some point =>
      cases ha : act move point s.shared with
      | none => exact .inl (by simp [ha])
      | some next => exact .inr ⟨point, next.1, next.2, rfl, ha, by simp [ha]⟩

theorem moves_or_stuck (act : μ → π → σ → Option (π × σ)) (i : Nat) (move : μ) (s : Threads σ π) :
    (∃ point point' shared', s.points[i]? = some point ∧
      act move point s.shared = some (point', shared') ∧
      s.step act i move = ⟨shared', s.points.set i point'⟩) ∨
    (∀ point, s.points[i]? = some point → act move point s.shared = none) ∧
      s.step act i move = s := by
  unfold step
  cases hp : s.points[i]? with
  | none => exact .inr ⟨by simp, rfl⟩
  | some point =>
      cases ha : act move point s.shared with
      | none => exact .inr ⟨by simp [ha], by simp [ha]⟩
      | some next => exact .inl ⟨point, next.1, next.2, rfl, ha, by simp [ha]⟩

@[simp] theorem length_points_step (act : μ → π → σ → Option (π × σ)) (i : Nat) (move : μ)
    (s : Threads σ π) : (s.step act i move).points.length = s.points.length := by
  rcases step_cases act i move s with hrest | ⟨point, point', shared', -, -, hstep⟩
  · rw [hrest]
  · rw [hstep, List.length_set]

@[simp] theorem length_points_run (act : μ → π → σ → Option (π × σ)) (schedule : List (Nat × μ))
    (s : Threads σ π) : (s.run act schedule).points.length = s.points.length :=
  run_induction (P := fun s' => s'.points.length = s.points.length)
    (fun s' i move h => (length_points_step act i move s').trans h) schedule rfl

@[simp] theorem total_start (weight : π → Nat) (shared : σ) (point : π) (count : Nat) :
    (start shared point count).total weight = count * weight point := by
  simp [total, start]

end Threads

end LogShipping
