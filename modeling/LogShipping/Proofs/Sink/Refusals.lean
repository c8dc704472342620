import LogShipping.Proofs.Sink.Notices
import LogShipping.Proofs.Throttle.Use
import Mathlib.Algebra.BigOperators.Group.List.Basic

namespace LogShipping.LineSink

open Device (Recorded)

variable {μ : Type}

def Notice.refusals : Notice → Nat
  | queueFull count => count.toNat
  | dropped count => count.toNat
  | _ => 0

def refusalsTold (s : LineSink μ) : Nat :=
  (s.journal.map Notice.refusals).sum

private theorem refusals_of_isFailure {notice : Notice} (h : notice.isFailure = true) :
    notice.refusals = 0 := by
  cases notice with
  | queueFull count => cases h
  | dropped count => cases h
  | writeFailed => rfl
  | flushFailed => rfl

private theorem refusals_failure? (shift : Worker.Shift Job (Scene (Recorded μ))) :
    ((failure? shift).toList.map Notice.refusals).sum = 0 := by
  refine List.sum_eq_zero (List.forall_mem_map.mpr fun notice hmem => ?_)
  rw [← isFailure_of_failure?] at hmem
  exact refusals_of_isFailure (List.mem_filter.mp hmem).2

namespace Service

variable [Device μ]

/-- What an event does with the throttle and tells, and whether it refuses. -/
theorem uses_step {s : Service μ} (h : s.Kept) (event : Event μ) :
    ∃ refused : Bool,
      (s.step event).threads.shared.refused = s.threads.shared.refused + refused.toNat ∧
        Throttle.Use s.sink.throttle s.sink.refusalsTold refused (s.step event).sink.throttle
          (s.step event).sink.refusalsTold := by
  have htold {tell : UInt64 → Notice} (htell : ∀ count, (tell count).refusals = count.toNat)
      {report : Option UInt64}
      (hjournal : (s.step event).sink.journal = s.sink.journal ++ (report.map tell).toList) :
      (s.step event).sink.refusalsTold = s.sink.refusalsTold + Throttle.toldBy report := by
    rw [LineSink.refusalsTold, hjournal, List.map_append, List.sum_append,
      Throttle.sum_report _ _ htell]
    rfl
  cases noticed_step h event with
  | nothing _ throttle journal _ refused =>
      refine ⟨false, refused, Throttle.use_of_leave throttle ?_⟩
      rw [LineSink.refusalsTold, journal]
      rfl
  | refusal i now move throttle journal _ refused =>
      exact ⟨true, refused, Throttle.use_of_drop throttle (htold (fun _ => rfl) journal)⟩
  | flush i now move asked throttle journal _ refused =>
      exact ⟨false, refused, Throttle.use_of_flush throttle (htold (fun _ => rfl) journal)⟩
  | finish shift throttle journal _ refused =>
      refine ⟨false, refused, Throttle.use_of_leave throttle ?_⟩
      rw [LineSink.refusalsTold, journal, List.map_append, List.sum_append, refusals_failure?]
      rfl

theorem settled_step {s : Service μ} (h : s.Kept) (event : Event μ) :
    (s.step event).sink.refusalsTold = s.sink.refusalsTold ∨
      (s.step event).sink.throttle.dropped = 0 := by
  obtain ⟨refused, -, huse⟩ := uses_step h event
  exact huse.settled

theorem accounts_of_run {s : Service μ} (h : s.Kept)
    (haccounts : s.sink.throttle.Accounts s.threads.shared.refused s.sink.refusalsTold)
    (events : List (Event μ)) :
    (s.run events).sink.throttle.Accounts (s.run events).threads.shared.refused
      (s.run events).sink.refusalsTold := by
  induction events generalizing s with
  | nil => exact haccounts
  | cons event rest ih =>
      obtain ⟨refused, hrefused, huse⟩ := uses_step h event
      exact ih (h.step event) (hrefused ▸ huse.accounts haccounts)

private theorem refusalsTold_of_calm {s : Service μ} (h : s.Kept) {event : Event μ}
    (hcalm : ∀ i now move, event ≠ .call i now move) :
    (s.step event).sink.refusalsTold = s.sink.refusalsTold := by
  unfold LineSink.refusalsTold
  cases noticed_step h event with
  | nothing _ _ journal => rw [journal]
  | refusal i now move => exact absurd rfl (hcalm i now move)
  | flush i now move => exact absurd rfl (hcalm i now move)
  | finish shift _ journal =>
      rw [journal, List.map_append, List.sum_append, refusals_failure?, Nat.add_zero]

/-- Dropping the sink tells of no refusal, and the worker does not tell of any afterwards. -/
theorem refusalsTold_drop {s : Service μ} (h : s.Kept) (works : Nat) :
    (s.run (.drop :: List.replicate works .work)).sink.refusalsTold = s.sink.refusalsTold := by
  have hworks {s : Service μ} (h : s.Kept) :
      (s.run (List.replicate works .work)).sink.refusalsTold = s.sink.refusalsTold := by
    induction works generalizing s with
    | zero => rfl
    | succ works ih =>
        have hwork : (s.step .work).sink.refusalsTold = s.sink.refusalsTold :=
          refusalsTold_of_calm h (by simp)
        exact (ih (h.step .work)).trans hwork
  have hdrop : (s.step .drop).sink.refusalsTold = s.sink.refusalsTold :=
    refusalsTold_of_calm h (by simp)
  exact (hworks (h.step .drop)).trans hdrop

end Service

end LogShipping.LineSink
