import LogShipping.Proofs.Backlog.Admission
import LogShipping.Proofs.Worker.Steps
import LogShipping.Worker.Service

namespace LogShipping.Worker

variable {J σ : Type}

inductive CallStep (s : Shared J σ) : Point J → Point J → Shared J σ → Prop
  | count (order : Order J) (tickets : Nat)
      (fresh : List.range tickets = List.range s.tickets ++ order.ticket?.toList) :
      CallStep s .idle (.counted order) { s.onBacklog .count with tickets }
  | reject (job : J) : CallStep s .idle .idle (s.finish (.rejected job))
  | submit (job : J) :
      CallStep s (.counted (.job job)) .idle ((s.store (.job job)).finish (.submitted job))
  | signal (ticket : Nat) :
      CallStep s (.counted (.signal ticket)) (.waiting ticket) (s.store (.signal ticket))
  | finish (ticket : Nat) (reached : Bool)
      (signalled : reached = true → ticket ∈ s.floor.signals) :
      CallStep s (.waiting ticket) .idle (s.finish (.passed ticket reached))

theorem callStep_cases {move : Move J} {point point' : Point J} {s s' : Shared J σ}
    (h : callStep move point s = some (point', s')) : CallStep s point point' s' := by
  cases point with
  | idle =>
      cases move with
      | submit job => cases h; exact .count (.job job) _ (List.append_nil _).symm
      | trySubmit limit job =>
          by_cases hroom : s.worker.backlog.size < limit
          · simp only [callStep, Backlog.admit?, hroom, if_true] at h
            cases h
            exact .count (.job job) _ (List.append_nil _).symm
          · simp only [callStep, Backlog.admit?, hroom, if_false] at h
            cases h
            exact .reject job
      | barrier => cases h; exact .count (.signal s.tickets) _ List.range_succ
      | resume => cases h
      | giveUp => cases h
  | counted order =>
      cases move with
      | resume =>
          cases order with
          | job job => cases h; exact .submit job
          | signal ticket => cases h; exact .signal ticket
      | _ => cases h
  | waiting ticket =>
      cases move with
      | resume =>
          by_cases hsignalled : ticket ∈ s.floor.signals
          · simp only [callStep, List.contains_iff_mem, hsignalled, if_true] at h
            cases h
            exact .finish ticket true fun _ => hsignalled
          · simp [callStep, hsignalled] at h
      | giveUp => cases h; exact .finish ticket false (by simp)
      | _ => cases h

inductive Worked (act : J → σ → Progress J σ) (s : Shared J σ) : Shared J σ → Prop
  | withdraw (entry : Backlog.Entry (Task (Order J))) (rest : Backlog (Task (Order J)))
      (free : s.withdrawn = none) (idle : s.worker.activity = .idle)
      (entries : s.worker.backlog.entries = entry :: rest.entries)
      (size : rest.size = s.worker.backlog.size) :
      Worked act s { s with worker := ⟨rest, .idle⟩, withdrawn := some entry }
  | begin (entry : Backlog.Entry (Task (Order J))) (held : s.withdrawn = some entry) :
      Worked act s { s with
        worker := ⟨s.worker.backlog.discount entry, entry.item.activity⟩
        withdrawn := none }
  | goOn (order rest : Order J) (floor : Floor σ) (free : s.withdrawn = none)
      (busy : s.worker.activity = .busy order)
      (left : Order.act act order s.floor = .left rest floor) :
      Worked act s { s with worker := { s.worker with activity := .busy rest }, floor }
  | finish (order : Order J) (floor : Floor σ) (free : s.withdrawn = none)
      (busy : s.worker.activity = .busy order)
      (finished : Order.act act order s.floor = .finished floor) :
      Worked act s { s with worker := { s.worker with activity := .idle }, floor }
  | crash (order : Order J) (floor : Floor σ) (free : s.withdrawn = none)
      (busy : s.worker.activity = .busy order)
      (panicked : Order.act act order s.floor = .panicked floor) :
      Worked act s { s with worker := { s.worker with activity := .crashed }, floor }

theorem worked_of_work? {act : J → σ → Progress J σ} {s s' : Shared J σ}
    (h : s.work? act = some s') : Worked act s s' := by
  obtain ⟨⟨backlog, activity⟩, withdrawn, floor, tickets, admitted, outcomes⟩ := s
  cases withdrawn with
  | some entry =>
      obtain rfl := Option.some.inj h
      exact .begin entry rfl
  | none =>
      cases activity with
      | idle =>
          obtain ⟨⟨entry, rest⟩, htaken, rfl⟩ := Option.map_eq_some_iff.mp h
          obtain ⟨hsize, hentries⟩ := Backlog.take?_eq_some htaken
          exact .withdraw entry rest rfl rfl hentries hsize
      | busy order =>
          obtain ⟨⟨worker', floor'⟩, hstep, rfl⟩ := Option.map_eq_some_iff.mp h
          cases stepped_of_step? hstep with
          | goOn now rest floor' busy left => exact .goOn now rest floor' rfl busy left
          | finish now floor' busy finished => exact .finish now floor' rfl busy finished
          | crash now floor' busy panicked => exact .crash now floor' rfl busy panicked
          | take job rest free popped => cases free
          | stop rest free popped => cases free
      | stopped => cases h
      | crashed => cases h

namespace Service

inductive Turned (act : J → σ → Progress J σ) (s : Service J σ) : Service J σ → Prop
  | rest : Turned act s s
  | call (i : Nat) (point point' : Point J) (shared' : Shared J σ) (held : s.tenure = .held)
      (standing : s.threads.points[i]? = some point)
      (moved : CallStep s.shared point point' shared') :
      Turned act s { s with threads := ⟨shared', s.threads.points.set i point'⟩ }
  | work (shared' : Shared J σ) (worked : Worked act s.shared shared') :
      Turned act s { s.onShared fun _ => shared' with
        history := s.history.next shared'.worker shared'.floor }
  | scene (change : σ → σ) :
      Turned act s (s.onShared fun shared => { shared with
        floor := { shared.floor with scene := change shared.floor.scene } })
  | leave (held : s.tenure = .held) (free : s.isFree = true) :
      Turned act s { s.onShared (.onBacklog .count) with tenure := .leaving }
  | close (leaving : s.tenure = .leaving) :
      Turned act s { s.onShared (.onBacklog (.store ⟨.stop, true⟩)) with tenure := .joining }
  | stop (joining : s.tenure = .joining) (stopped : s.worker.activity = .stopped) :
      Turned act s { s with tenure := .ended false }
  | crash (joining : s.tenure = .joining) (crashed : s.worker.activity = .crashed) :
      Turned act s { s with tenure := .ended true, journal := s.journal ++ [crashNotice] }

theorem turned_step (act : J → σ → Progress J σ) (event : Event J σ) (s : Service J σ) :
    Turned act s (s.step act event) := by
  cases event with
  | call i move =>
      by_cases hheld : s.tenure = .held
      · rw [step, call, if_pos hheld]
        rcases s.threads.step_cases callStep i move with
          hstay | ⟨point, point', shared', hpoint, hact, hstep⟩
        · rw [hstay]
          exact .rest
        · rw [hstep]
          exact .call i point point' shared' hheld hpoint (callStep_cases hact)
      · rw [step, call, if_neg hheld]
        exact .rest
  | work =>
      cases hwork : s.shared.work? act with
      | none =>
          simp only [step, work, hwork]
          exact .rest
      | some shared' =>
          simp only [step, work, hwork]
          exact .work shared' (worked_of_work? hwork)
  | scene change => exact .scene change
  | drop =>
      cases htenure : s.tenure with
      | held =>
          by_cases hfree : s.isFree
          · simp only [step, drop, htenure, hfree, if_true]
            exact .leave htenure hfree
          · simp only [step, drop, htenure, hfree, Bool.false_eq_true, if_false]
            exact .rest
      | leaving =>
          simp only [step, drop, htenure]
          exact .close htenure
      | joining =>
          cases hactivity : s.worker.activity with
          | stopped =>
              simp only [step, drop, htenure, hactivity]
              exact .stop htenure hactivity
          | crashed =>
              simp only [step, drop, htenure, hactivity]
              exact .crash htenure hactivity
          | idle =>
              simp only [step, drop, htenure, hactivity]
              exact .rest
          | busy order =>
              simp only [step, drop, htenure, hactivity]
              exact .rest
      | ended panicked =>
          simp only [step, drop, htenure]
          exact .rest

end Service

end LogShipping.Worker
