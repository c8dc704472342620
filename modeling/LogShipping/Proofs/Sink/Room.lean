import LogShipping.Proofs.Sink.Output

namespace LogShipping.LineSink

open Device (Recorded)

variable {μ : Type}

def flushesWaiting (s : LineSink μ) : Nat :=
  (s.worker.jobs.filterMap Job.ticket?).length

theorem isWrite_eq_false_iff (job : Job) : ¬job.isWrite = true ↔ job.ticket?.isSome = true := by
  cases job <;> simp [Job.isWrite, Job.ticket?]

private theorem length_jobs (s : LineSink μ) :
    s.worker.jobs.length = (s.worker.jobs.filter Job.isWrite).length + s.flushesWaiting := by
  rw [flushesWaiting, List.length_filterMap_eq_countP, ← List.countP_eq_length_filter,
    List.length_eq_countP_add_countP Job.isWrite]
  congr 1
  apply List.countP_congr
  intro job _
  rw [decide_eq_true_iff]
  exact isWrite_eq_false_iff job

theorem submit?_eq_none_iff {r : Record} {s : LineSink μ} :
    s.submit? r = none ↔ s.capacity ≤ s.waiting := by
  constructor
  · intro h
    exact Worker.trySubmit?_eq_none (Option.map_eq_none_iff.mp h)
  · intro hfull
    cases hsubmit : s.submit? r with
    | none => rfl
    | some s' =>
        obtain ⟨worker, hworker, -⟩ := Option.map_eq_some_iff.mp hsubmit
        exact absurd (Worker.trySubmit?_eq_some hworker).1 (Nat.not_lt.mpr hfull)

namespace Service

def begunLines (s : Service μ) : Nat :=
  ((s.history.shifts.map Worker.Shift.job ++ (s.history.begun.map Prod.fst).toList).filter
    Job.isWrite).length

def unstarted (s : Service μ) : List (Record × Layout) :=
  s.accepted.drop s.begunLines

private theorem Kept.unstarted_lines {s : Service μ} (h : s.Kept) :
    s.unstarted.map lineOf = s.sink.worker.jobs.filter Job.isWrite := by
  rw [unstarted, List.map_drop, ← h.row, Worker.History.row, List.filter_append]
  exact List.drop_left

theorem Kept.waiting_eq {s : Service μ} (h : s.Kept) (hdropped : s.dropped = false) :
    s.sink.waiting = s.unstarted.length + s.sink.flushesWaiting := by
  have hlines := congrArg List.length h.unstarted_lines
  rw [List.length_map] at hlines
  calc s.sink.waiting
      = s.sink.worker.jobs.length := (h.serving hdropped).size_eq
    _ = s.unstarted.length + s.sink.flushesWaiting := by rw [length_jobs, hlines]

theorem outcomes_resume {s : Service μ} {i : Nat} {r : Record}
    (hpoint : s.threads.points[i]? = some (.cleared r)) (now : Nat) :
    (s.call i now .resume).threads.shared.outcomes = s.threads.shared.outcomes ++
      [.added r (if s.sink.waiting < s.sink.capacity then .ok () else .error .queueFull)] := by
  have hthreads : (s.call i now .resume).threads = s.threads.step (callStep now) i .resume := rfl
  rw [hthreads]
  by_cases hroom : s.sink.waiting < s.sink.capacity
  · cases hsubmit : s.threads.shared.sink.submit? r with
    | none => exact absurd (submit?_eq_none_iff.mp hsubmit) (Nat.not_le.mpr hroom)
    | some sink => simp [Threads.step, hpoint, callStep, hsubmit, Shared.finish, hroom]
  · have hsubmit : s.threads.shared.sink.submit? r = none :=
      submit?_eq_none_iff.mpr (Nat.not_lt.mp hroom)
    simp [Threads.step, hpoint, callStep, hsubmit, Shared.finish, hroom]

variable [Device μ]

theorem capacity_step (event : Event μ) (s : Service μ) :
    (s.step event).sink.capacity = s.sink.capacity := by
  by_cases hcall : ∃ i now move, event = .call i now move
  · obtain ⟨i, now, move, rfl⟩ := hcall
    by_cases hdropped : s.dropped
    · simp [Service.step, hdropped]
    · obtain ⟨outcomes, job, hserved⟩ := served_call i now move s
      have hcalled : s.step (.call i now move) = s.call i now move := by
        simp [Service.step, hdropped]
      rw [hcalled]
      exact hserved.handed.capacity
  · push Not at hcall
    exact (calm_step hcall).2.2.2

theorem capacity_run (events : List (Event μ)) (s : Service μ) :
    (s.run events).sink.capacity = s.sink.capacity :=
  run_induction (P := fun s' => s'.sink.capacity = s.sink.capacity)
    (fun s' event hsame => (capacity_step event s').trans hsame) events rfl

end Service

end LogShipping.LineSink
