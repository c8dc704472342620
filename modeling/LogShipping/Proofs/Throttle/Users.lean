import LogShipping.Device.Scripted
import LogShipping.Dispatcher.Outlet
import LogShipping.Proofs.Dispatcher.Refusals
import LogShipping.Proofs.Sink.Refusals
import LogShipping.Proofs.Uplink.Refusals

namespace LogShipping.Throttle

open Device (Recorded)

/-- At any time, a sink, an uplink and a dispatcher have refused what they have told and what their
throttle still counts. When one of them tells of refusals, and when it is flushed, it tells of all
of them. But when it is dropped, it tells of none. -/
theorem refusals_accounted :
    (∀ (μ : Type) [Device μ] (device : μ) (layout : Layout) (capacity now : Nat) (name : String)
        (isConsole : Bool) (callers : Nat) (events : List (LineSink.Service.Event μ)),
      let s := (LineSink.Service.start
        { LineSink.new (Recorded.of device) layout capacity now with name, isConsole } callers).run
        events
      s.sink.throttle.Accounts s.threads.shared.refused s.sink.refusalsTold ∧
        (∀ event, (s.step event).sink.refusalsTold = s.sink.refusalsTold ∨
          (s.step event).sink.throttle.dropped = 0) ∧
        (∀ now tick timeout, (s.sink.askFlush now tick timeout).1.throttle.dropped = 0) ∧
        ∀ works, (s.run (.drop :: List.replicate works .work)).sink.refusalsTold =
          s.sink.refusalsTold) ∧
      (∀ (settings : Uplink.Settings) (now threads : Nat) (turns : List Uplink.Turn),
        let s := Uplink.reached settings now threads turns
        let u := s.shared.uplink
        u.throttle.Accounts (Uplink.refusedIn settings now threads turns) u.refusalsTold ∧
          (∀ turn, (Uplink.Turn.take turn s).shared.uplink.refusalsTold = u.refusalsTold ∨
            (Uplink.Turn.take turn s).shared.uplink.throttle.dropped = 0) ∧
          (∀ now, (u.reportRefusals now).throttle.dropped = 0) ∧
          ∀ tick, (u.retire tick).refusalsTold = u.refusalsTold) ∧
      ∀ (H ω : Type) [Target H] (own : ω → H → H) (origin : Origin) (targets : List H)
        (capacity now callers : Nat) (turns : List (Dispatcher.Turn ω)),
        let start := Dispatcher.Chronicle.start origin targets capacity now callers
        let c := start.run own turns
        let d := c.dispatcher
        d.throttle.Accounts (Dispatcher.refusedIn own turns start) d.refusalsTold ∧
          (∀ turn, (c.step own turn).dispatcher.refusalsTold = d.refusalsTold ∨
            (c.step own turn).dispatcher.throttle.dropped = 0) ∧
          (∀ now tick timeout, (d.askFlush now tick timeout).1.throttle.dropped = 0) ∧
          d.retire.refusalsTold = d.refusalsTold := by
  refine ⟨?sink, ?uplink, ?dispatcher⟩
  case sink =>
    intro μ _ device layout capacity now name isConsole callers events s
    have hstart := LineSink.Service.kept_start device layout capacity now name isConsole callers
    have h : s.Kept := LineSink.Service.kept_run hstart events
    refine ⟨?_, LineSink.Service.settled_step h, ?_, LineSink.Service.refusalsTold_drop h⟩
    · exact LineSink.Service.accounts_of_run hstart (accounts_new standardInterval now) events
    · intro now tick timeout
      rw [LineSink.throttle_askFlush, dropped_flush]
  case uplink =>
    intro settings now threads turns s u
    refine ⟨Uplink.accounts_reached settings now threads turns,
      fun turn => Throttle.Use.settled (Uplink.uses_take turn s), ?_,
      fun tick => Uplink.refusalsTold_retire tick u⟩
    intro now
    rw [Uplink.throttle_reportRefusals, dropped_flush]
  case dispatcher =>
    intro H ω _ own origin targets capacity now callers turns start c d
    exact ⟨Dispatcher.Chronicle.accounts_run own origin targets capacity now callers turns,
      fun turn => Throttle.Use.settled (Dispatcher.uses_take own turn c.threads),
      fun now tick timeout => Dispatcher.dropped_askFlush now tick timeout d,
      Dispatcher.refusalsTold_retire d⟩

/-- A sink, an uplink and a dispatcher refuse two messages at about the same time, and tell of the
first. Then they are dropped, and the second is never told. -/
theorem refusals_untold :
    let draft : Draft :=
      { severity := .error, message := "a", thread := "t", time := { seconds := 0, nanos := 0 }
        fields := [] }
    let origin : Origin := { host := "db", processId := 1, processName := "p" }
    let add : List (LineSink.Service.Event Device.Scripted) :=
      [.call 0 5001 (.add (draft.complete origin [])), .call 0 5001 .resume]
    let s := (LineSink.Service.start { LineSink.new (Recorded.of ({} : Device.Scripted))
      Record.message 0 5000 with name := LineSink.streamName, isConsole := false } 1).run
      (add ++ add ++ [.drop, .work])
    let settings : Uplink.Settings := { Uplink.Settings.standard with maxWaiting := 0 }
    let sends : List Uplink.Turn := List.replicate 2 (.caller 0 (.send 5001 "a"))
    let u := (Uplink.reached settings 5000 1 sends).shared.uplink.retire .start
    let start := Dispatcher.Chronicle.start origin ([] : List Outlet) 0 5000 1
    let logs : List (Dispatcher.Turn Outlet.Deed) :=
      List.replicate 2 (.caller 0 (.log 5001 draft))
    let d := (start.run Outlet.perform logs).dispatcher.retire
    (s.dropped = true ∧ s.sink.worker.activity = .stopped ∧ s.threads.shared.refused = 2 ∧
        s.sink.journal = [.queueFull 1]) ∧
      (Uplink.refusedIn settings 5000 1 sends = 2 ∧
        u.journal.filter Uplink.Event.isWarning = [.queueFull 1]) ∧
      Dispatcher.refusedIn Outlet.perform logs start = 2 ∧ d.journal = [.queueFull 1] := by
  decide +kernel

end LogShipping.Throttle
