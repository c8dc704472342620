import LogShipping.Proofs.Dispatcher.Calls
import LogShipping.Proofs.Throttle.Use

namespace LogShipping.Dispatcher

def Notice.refusals : Notice → Nat
  | queueFull count => count.toNat
  | dropped count => count.toNat

variable {H ω : Type}

def refusalsTold (d : Dispatcher H) : Nat :=
  (d.journal.map Notice.refusals).sum

private theorem refusalsTold_countRefusal (now : Nat) (d : Dispatcher H) :
    (d.countRefusal now).refusalsTold =
      d.refusalsTold + Throttle.toldBy (d.throttle.drop now).2 := by
  have htold := Throttle.sum_report Notice.refusals Notice.queueFull (fun _ => rfl)
  rw [refusalsTold, countRefusal, List.map_append, List.sum_append, htold]
  rfl

private theorem refusalsTold_reportRefusals (now : Nat) (d : Dispatcher H) :
    (d.reportRefusals now).refusalsTold =
      d.refusalsTold + Throttle.toldBy (d.throttle.flush now).2 := by
  have htold := Throttle.sum_report Notice.refusals Notice.dropped (fun _ => rfl)
  rw [refusalsTold, reportRefusals, List.map_append, List.sum_append, htold]
  rfl

def Move.isRefused (move : Move) (point : Point) (s : Shared H) : Bool :=
  match move, point with
  | .log _ draft, .idle =>
    draft.severity.passes s.dispatcher.threshold &&
      decide (s.dispatcher.capacity ≤ s.dispatcher.worker.waiting)
  | _, _ => false

def Turn.refuses (turn : Turn ω) (s : Threads (Shared H) Point) : Bool :=
  match turn with
  | caller i move => s.points[i]?.any fun point => move.isRefused point s.shared
  | _ => false

def Uses (d : Dispatcher H) (refused : Bool) (d' : Dispatcher H) : Prop :=
  Throttle.Use d.throttle d.refusalsTold refused d'.throttle d'.refusalsTold

private theorem uses_countRefusal (now : Nat) (d : Dispatcher H) : d.Uses true
    (d.countRefusal now) :=
  Throttle.use_of_drop rfl (refusalsTold_countRefusal now d)

private theorem uses_askFlush (now : Nat) (tick : Tick) (timeout : Span) (d : Dispatcher H) :
    d.Uses false (d.askFlush now tick timeout).1 := by
  have hreport : d.Uses false (d.reportRefusals now) :=
    Throttle.use_of_flush rfl (refusalsTold_reportRefusals now d)
  unfold askFlush
  cases tick.add? timeout <;> exact hreport

private theorem uses_log (now : Nat) (draft : Draft) (s : Shared H) :
    s.dispatcher.Uses (Move.isRefused (.log now draft) .idle s) (s.log now draft).dispatcher := by
  by_cases hpasses : draft.severity.passes s.dispatcher.threshold
  · have hrefused : Move.isRefused (.log now draft) .idle s =
        decide (s.dispatcher.capacity ≤ s.dispatcher.worker.waiting) := by
      simp [Move.isRefused, hpasses]
    rw [hrefused]
    cases hsubmit : s.dispatcher.submit? draft with
    | some d =>
        obtain ⟨worker, hworker, rfl⟩ := Option.map_eq_some_iff.mp hsubmit
        have hroom : ¬s.dispatcher.capacity ≤ s.dispatcher.worker.waiting :=
          Nat.not_le.mpr (Worker.trySubmit?_eq_some hworker).1
        rw [decide_eq_false hroom]
        simp only [Shared.log, hpasses, hsubmit, if_true]
        exact .leave
    | none =>
        have hfull : s.dispatcher.capacity ≤ s.dispatcher.worker.waiting :=
          Worker.trySubmit?_eq_none (Option.map_eq_none_iff.mp hsubmit)
        rw [decide_eq_true hfull]
        simp only [Shared.log, hpasses, hsubmit, if_true]
        exact uses_countRefusal now s.dispatcher
  · simp only [Shared.log, Move.isRefused, hpasses, Bool.false_and]
    exact .leave

variable [Target H]

private theorem uses_askTarget (now : Nat) (d : Dispatcher H) (place : Nat) :
    d.Uses false (d.askTarget now place).1 := by
  unfold askTarget
  cases d.targets[place]? <;> exact .leave

private theorem uses_of_callStep {move : Move} {point point' : Point} {s s' : Shared (Watched H)}
    (h : callStep move point s = some (point', s')) :
    s.dispatcher.Uses (move.isRefused point s) s'.dispatcher := by
  cases callStep_cases h with
  | log now draft => exact uses_log now draft s
  | flush now tick timeout point waits => exact uses_askFlush now tick timeout s.dispatcher
  | ask index now place rest asked promised next => exact uses_askTarget now s.dispatcher place
  | _ => exact .leave

private theorem isRefused_of_stuck {move : Move} {point : Point} {s : Shared (Watched H)}
    (h : callStep move point s = none) : move.isRefused point s = false := by
  cases move with
  | log now draft =>
      cases point with
      | idle => cases h
      | _ => rfl
  | _ => rfl

theorem uses_take (own : ω → H → H) (turn : Turn ω) (s : Threads (Shared (Watched H)) Point) :
    s.shared.dispatcher.Uses (turn.refuses s)
      (turn.take (Watched.own own) s).shared.dispatcher := by
  cases turn with
  | caller i move =>
      change s.shared.dispatcher.Uses _ (s.step callStep i move).shared.dispatcher
      rcases Threads.moves_or_stuck callStep i move s with
        ⟨point, point', shared', hpoint, hact, hstep⟩ | ⟨hstuck, hstep⟩
      · rw [hstep, Turn.refuses, hpoint]
        exact uses_of_callStep hact
      · have hnone : Turn.refuses (.caller i move : Turn ω) s = false := by
          rw [Turn.refuses]
          cases hpoint : s.points[i]? with
          | none => rfl
          | some point => exact isRefused_of_stuck (hstuck point hpoint)
        rw [hstep, hnone]
        exact .leave
  | worker =>
      unfold Turn.take
      cases hwork : s.shared.dispatcher.work? with
      | none => exact .leave
      | some d =>
          obtain ⟨next, -, rfl⟩ := Option.map_eq_some_iff.mp hwork
          exact .leave
  | target i deed => exact .leave

def refusedIn (own : ω → H → H) (turns : List (Turn ω)) (c : Chronicle H) : Nat :=
  Throttle.refusals (fun turn c => Chronicle.step own turn c) (fun turn c => turn.refuses c.threads)
    turns c

theorem Chronicle.accounts_run (own : ω → H → H) (origin : Origin) (targets : List H)
    (capacity now callers : Nat) (turns : List (Turn ω)) :
    let start := Chronicle.start origin targets capacity now callers
    let d := (start.run own turns).dispatcher
    d.throttle.Accounts (refusedIn own turns start) d.refusalsTold := by
  intro start d
  have hstart : start.dispatcher.throttle.Accounts 0 start.dispatcher.refusalsTold :=
    Throttle.accounts_new Throttle.standardInterval now
  have haccounts := Throttle.accounts_run (fun turn c => Chronicle.step own turn c)
    (fun turn c => turn.refuses c.threads) (fun c => c.dispatcher.throttle)
    (fun c => c.dispatcher.refusalsTold) (fun turn c => uses_take own turn c.threads) turns hstart
  rwa [Nat.zero_add] at haccounts

theorem journal_run (fuel : Nat) (d : Dispatcher H) : (run fuel d).journal = d.journal := by
  induction fuel generalizing d with
  | zero => rfl
  | succ fuel ih =>
      unfold run
      cases hwork : d.work? with
      | none => rfl
      | some next =>
          obtain ⟨step, -, rfl⟩ := Option.map_eq_some_iff.mp hwork
          exact ih _

theorem refusalsTold_retire (d : Dispatcher H) : d.retire.refusalsTold = d.refusalsTold :=
  congrArg (fun journal => (journal.map Notice.refusals).sum) (journal_run _ _)

omit [Target H] in
theorem dropped_askFlush (now : Nat) (tick : Tick) (timeout : Span) (d : Dispatcher H) :
    (d.askFlush now tick timeout).1.throttle.dropped = 0 := by
  unfold askFlush
  cases tick.add? timeout <;> exact Throttle.dropped_flush now d.throttle

end LogShipping.Dispatcher
