import LogShipping.Dispatcher.Outlet
import LogShipping.Proofs.Dispatcher.Dispatch
import LogShipping.Proofs.Sink.Room

namespace LogShipping.Dispatcher

variable {H ω : Type}

def draftsWaiting (w : Worker Job) : List (Draft × Fields) :=
  w.jobs.filterMap Job.draft?

def barriersWaiting (w : Worker Job) : Nat :=
  (w.jobs.filterMap Job.ticket?).length

private theorem length_jobs {w : Worker Job}
    (hfresh : ∀ record rest, .deliver record rest ∉ w.jobs) : w.jobs.length =
    (draftsWaiting w).length + barriersWaiting w := by
  rw [draftsWaiting, barriersWaiting, List.length_filterMap_eq_countP,
    List.length_filterMap_eq_countP,
    List.length_eq_countP_add_countP fun job : Job => job.draft?.isSome]
  congr 1
  apply List.countP_congr
  intro job hmem
  cases job with
  | dispatch draft base => simp [Job.draft?, Job.ticket?]
  | deliver record rest => exact absurd hmem (hfresh record rest)
  | barrier ticket => simp [Job.draft?, Job.ticket?]

namespace Chronicle

variable [Target H]

theorem capacity_step {c : Chronicle H} (hserving : c.dispatcher.worker.Serving) (own : ω → H → H)
    (turn : Turn ω) : (c.step own turn).dispatcher.capacity = c.dispatcher.capacity := by
  cases turn with
  | caller i move =>
      rcases c.threads.moves_or_stuck callStep i move with
        ⟨point, point', shared', hpoint, hact, hstep⟩ | ⟨-, hstay⟩
      · have hthreads : (c.step own (.caller i move)).threads = _ := hstep
        obtain ⟨job, hcalled, -⟩ := called_of_callStep (ω := ω) hserving hpoint hact
        rw [dispatcher, hthreads]
        exact hcalled.capacity
      · have hthreads : (c.step own (.caller i move)).threads = c.threads := hstay
        rw [dispatcher, hthreads]
        rfl
  | worker =>
      cases hwork : c.threads.shared.dispatcher.work? with
      | none => simp [step, dispatcher, Turn.take, hwork]
      | some d =>
          obtain ⟨next, -, rfl⟩ := Option.map_eq_some_iff.mp hwork
          simp [step, dispatcher, Turn.take, hwork]
  | target i deed => rfl

theorem capacity_run {origin : Origin} {c : Chronicle H} (h : c.Kept origin) (own : ω → H → H)
    (turns : List (Turn ω)) : (c.run own turns).dispatcher.capacity = c.dispatcher.capacity := by
  have hboth : (c.run own turns).Kept origin ∧
      (c.run own turns).dispatcher.capacity = c.dispatcher.capacity := by
    refine run_induction (P := fun c' => c'.Kept origin ∧
      c'.dispatcher.capacity = c.dispatcher.capacity) ?_ turns ⟨h, rfl⟩
    intro c' turn hc'
    exact ⟨hc'.1.step own turn, (capacity_step hc'.1.serving own turn).trans hc'.2⟩
  exact hboth.2

omit [Target H] in
private theorem Kept.length_admitted {origin : Origin} {c : Chronicle H} (h : c.Kept origin) :
    c.admitted.length = c.dispatched.length +
      (c.dispatcher.worker.hand.filterMap Job.draft?).length +
        (draftsWaiting c.dispatcher.worker).length := by
  have horder := congrArg List.length h.order
  simp only [List.length_append, List.length_map, undispatched, Worker.pending,
    List.filterMap_append] at horder
  rw [← horder, draftsWaiting, Nat.add_assoc]

omit [Target H] in
private theorem Kept.waiting_eq {origin : Origin} {c : Chronicle H} (h : c.Kept origin) :
    c.dispatcher.worker.waiting =
      (draftsWaiting c.dispatcher.worker).length + barriersWaiting c.dispatcher.worker :=
  h.serving.size_eq.trans (length_jobs h.fresh)

/-- Only where no flush waits do records have all the room. At a sink and at a dispatcher what
waits are the records that were accepted and not begun, and the flushes; and a record is accepted
just when both together are fewer than the capacity. -/
theorem flushes_take_room {μ : Type} [Device μ] (capacity : Nat) :
    (∀ (device : μ) (layout : Layout) (now : Nat) (name : String) (isConsole : Bool) (callers : Nat)
      (events : List (LineSink.Service.Event μ)),
      let s := (LineSink.Service.start { LineSink.new (Device.Recorded.of device) layout capacity now
        with name, isConsole } callers).run events
      s.dropped = false →
        s.sink.waiting = s.unstarted.length + s.sink.flushesWaiting ∧
        ∀ i now r, s.threads.points[i]? = some (.cleared r) →
          (s.step (.call i now .resume)).threads.shared.outcomes =
            s.threads.shared.outcomes ++ [.added r
              (if s.unstarted.length + s.sink.flushesWaiting < capacity then .ok ()
                else .error .queueFull)]) ∧
    ∀ (own : ω → H → H) (origin : Origin) (targets : List H) (now callers : Nat)
      (turns : List (Turn ω)),
      let c := (start origin targets capacity now callers).run own turns
      let w := c.dispatcher.worker
      c.admitted.length = c.dispatched.length + (w.hand.filterMap Job.draft?).length +
          (draftsWaiting w).length ∧
        w.waiting = (draftsWaiting w).length + barriersWaiting w ∧
        ∀ i now draft, c.threads.points[i]? = some .idle →
          draft.severity.passes c.dispatcher.threshold = true →
          (c.step own (.caller i (.log now draft))).admitted = c.admitted ++
            if (draftsWaiting w).length + barriersWaiting w < capacity then
              [(draft, c.dispatcher.base)]
            else [] := by
  constructor
  · intro device layout now name isConsole callers events s hdropped
    have h : s.Kept := LineSink.Service.kept_run
      (LineSink.Service.kept_start device layout capacity now name isConsole callers) events
    have hcapacity : s.sink.capacity = capacity := LineSink.Service.capacity_run events _
    refine ⟨h.waiting_eq hdropped, fun i now r hpoint => ?_⟩
    have hcall : s.step (.call i now .resume) = s.call i now .resume := by
      simp [LineSink.Service.step, hdropped]
    rw [hcall, LineSink.Service.outcomes_resume hpoint now, h.waiting_eq hdropped, hcapacity]
  · intro own origin targets now callers turns c w
    have hstart := kept_start origin targets capacity now callers
    have h : c.Kept origin := kept_run hstart own turns
    have hcapacity : c.dispatcher.capacity = capacity := capacity_run hstart own turns
    refine ⟨h.length_admitted, h.waiting_eq, fun i now draft hpoint hpasses => ?_⟩
    have hroom : c.dispatcher.worker.jobs.length < c.dispatcher.capacity ↔
        (draftsWaiting w).length + barriersWaiting w < capacity := by
      rw [hcapacity, length_jobs h.fresh]
    have hadmitted : (c.step own (.caller i (.log now draft))).admitted =
        c.admitted ++ handedIn (.caller i (.log now draft) : Turn ω) c.threads := rfl
    rw [hadmitted]
    congr 1
    simp only [handedIn, hpoint, true_and]
    exact if_congr ((and_iff_right hpasses).trans hroom) rfl rfl

/-- The worker is held up with the first record, and the time of a flush is up. Then nothing that
was accepted waits, but the second record finds no room. Without the flush it is accepted. -/
theorem refused_behind_flush :
    let draft (message : String) : Draft :=
      { severity := .error, message, thread := "t", time := { seconds := 0, nanos := 0 }
        fields := [] }
    let origin : Origin := { host := "db", processId := 1, processName := "p" }
    let r (message : String) : Record := (draft message).complete origin []
    let held : List (LineSink.Service.Event Device.Scripted) :=
      [.call 0 1 (.add (r "a")), .call 0 1 .resume, .work]
    let flush : List (LineSink.Service.Event Device.Scripted) :=
      [.call 0 1 (.flush ⟨.start, .ofSeconds 5⟩), .call 0 1 .giveUp]
    let next : List (LineSink.Service.Event Device.Scripted) :=
      [.call 0 1 (.add (r "b")), .call 0 1 .resume]
    let sink := LineSink.Service.start { LineSink.new
      (Device.Recorded.of { gateOpen := false : Device.Scripted }) Record.message 1 0 with
      name := LineSink.streamName, isConsole := false } 1
    let heldUp : List (Turn Outlet.Deed) :=
      [.caller 0 (.register 0), .caller 0 (.log 1 (draft "a")), .worker, .worker]
    let barrier : List (Turn Outlet.Deed) :=
      [.caller 0 (.flush 1 .start (.ofSeconds 5)), .caller 0 .giveUp]
    let logged : List (Turn Outlet.Deed) := [.caller 0 (.log 1 (draft "b"))]
    let dispatcher := start origin [Outlet.gate false] 1 0 1
    ((sink.run (held ++ flush)).sink.waiting = 1 ∧ (sink.run (held ++ flush)).unstarted.length = 0 ∧
        (sink.run (held ++ flush ++ next)).accepted.map Prod.fst = [r "a"] ∧
        (sink.run (held ++ next)).accepted.map Prod.fst = [r "a", r "b"]) ∧
      (dispatcher.run Outlet.perform (heldUp ++ barrier)).dispatcher.worker.waiting = 1 ∧
      draftsWaiting (dispatcher.run Outlet.perform (heldUp ++ barrier)).dispatcher.worker = [] ∧
      (dispatcher.run Outlet.perform (heldUp ++ barrier ++ logged)).admitted = [(draft "a", [])] ∧
      (dispatcher.run Outlet.perform (heldUp ++ logged)).admitted =
        [(draft "a", []), (draft "b", [])] := by
  decide +kernel

end Chronicle

end LogShipping.Dispatcher
