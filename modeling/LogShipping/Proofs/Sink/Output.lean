import LogShipping.Device.Scripted
import LogShipping.Proofs.Sink.Lines

namespace LogShipping.LineSink

open Device (Recorded)

variable {μ : Type}

structure Served (s s' : Shared μ) (outcomes : List Outcome) (job : Option Job) : Prop where
  ended : s'.outcomes = s.outcomes ++ outcomes
  handed : Handed job s.sink s'.sink
  lines : job.toList.filter Job.isWrite =
    (outcomes.filterMap Outcome.accepted?).map fun r => lineOf (r, s.sink.layout)

private theorem Served.quiet {s s' : Shared μ} {outcomes : List Outcome}
    (houtcomes : s'.outcomes = s.outcomes ++ outcomes) (handed : Handed none s.sink s'.sink)
    (hnone : outcomes.filterMap Outcome.accepted? = []) : Served s s' outcomes none :=
  ⟨houtcomes, handed, by simp [hnone]⟩

private theorem served_askFlush (now : Nat) (wait : Wait) (closes : Bool) (s : Shared μ) :
    ∃ job, Served s (s.askFlush now wait closes).2 [] job := by
  rcases handed_askFlush now wait.tick wait.timeout s.sink with ⟨-, handed⟩ | ⟨-, handed⟩
  · exact ⟨_, (List.append_nil _).symm, handed, rfl⟩
  · exact ⟨_, (List.append_nil _).symm, handed, rfl⟩

theorem accepted?_ofWait (closes succeeded : Bool) :
    (Outcome.ofWait closes succeeded).accepted? = none := by
  cases closes <;> rfl

theorem Moved.served {now : Nat} {point point' : Point} {s s' : Shared μ}
    (h : Moved now s point point' s') : ∃ outcomes job, Served s s' outcomes job := by
  cases h with
  | reject r closed => exact ⟨_, _, .quiet rfl (handed_self _) rfl⟩
  | clear r closed => exact ⟨[], _, .quiet (List.append_nil _).symm (handed_self _) rfl⟩
  | submit r sink room => exact ⟨_, _, rfl, handed_submit? room, rfl⟩
  | refuse r full => exact ⟨_, _, .quiet rfl (handed_countRefusal now s.sink) rfl⟩
  | shut wait => exact ⟨[], _, .quiet (List.append_nil _).symm (handed_shut _) rfl⟩
  | ask wait => exact ⟨[], served_askFlush now wait false s⟩
  | askLast wait => exact ⟨[], served_askFlush now wait true s⟩
  | answer ticket closes ok answered =>
      exact ⟨_, _, .quiet rfl (handed_self _) (by simp [accepted?_ofWait])⟩
  | giveUp ticket closes =>
      exact ⟨_, _, .quiet rfl (handed_self _) (by simp [accepted?_ofWait])⟩

namespace Service

structure Kept (s : Service μ) : Prop where
  tells : Worker.History.Tells Progressed Ended s.sink.worker s.sink.scene s.history
  sums : Worker.History.Sums (·.device.taken) s.sink.scene s.history
  row : (s.history.row s.sink.worker).filter Job.isWrite = s.accepted.map lineOf
  told : s.accepted.map Prod.fst = s.threads.shared.accepted
  tickets : (s.history.row s.sink.worker).filterMap Job.ticket? = List.range s.sink.tickets
  answers : Worker.History.Sums Scene.answers s.sink.scene s.history
  serving : s.dropped = false → s.sink.worker.Serving
  retiring : s.dropped = true → s.sink.worker.Retiring
  awake : s.sink.worker.activity ≠ .crashed

theorem kept_start (device : μ) (layout : Layout) (capacity now : Nat) (name : String)
    (isConsole : Bool) (callers : Nat) :
    (start { new (Recorded.of device) layout capacity now with name, isConsole } callers).Kept where
  tells := Worker.History.tells_empty _
  sums := rfl
  row := rfl
  told := rfl
  tickets := rfl
  answers := rfl
  serving _ := Worker.serving_new
  retiring h := by cases h
  awake := by simp [start, sink, Threads.start, Shared.new, new, Worker.new]

/-- What the callers and the owner do is not seen by the job at hand. -/
theorem Kept.handed {s s' : Service μ} (h : s.Kept) {job : Option Job} {added : List Record}
    (handed : Handed job s.sink s'.sink) (hhistory : s'.history = s.history)
    (haccepted : s'.accepted = s.accepted ++ added.map fun r => (r, s.sink.layout))
    (hlines : job.toList.filter Job.isWrite = added.map fun r => lineOf (r, s.sink.layout))
    (htold : s'.threads.shared.accepted = s.threads.shared.accepted ++ added)
    (hdropped : s.dropped = false) (hdropped' : s'.dropped = false) : s'.Kept := by
  have htaken : s'.sink.scene.device.taken = s.sink.scene.device.taken :=
    congrArg Recorded.taken handed.device
  refine ⟨?_, ?_, ?_, ?_, ?_, ?_, fun _ => handed.serving (h.serving hdropped), ?_, ?_⟩
  · rw [hhistory]
    exact h.tells.touch handed.activity fun _ _ _ hhand =>
      hhand.untouched htaken (congrArg Recorded.flushes handed.device) handed.journal handed.answers
  · rw [hhistory]
    exact h.sums.touch htaken
  · rw [hhistory, handed.row, List.filter_append, h.row, haccepted, hlines, List.map_append,
      List.map_map]
    rfl
  · rw [haccepted, htold, List.map_append, h.told, List.map_map, Function.comp_def, List.map_id']
  · rw [hhistory, handed.row, List.filterMap_append, h.tickets, handed.tickets]
  · rw [hhistory]
    exact h.answers.touch handed.answers
  · simp [hdropped']
  · rw [handed.activity]
    exact h.awake

theorem call_cases (i now : Nat) (move : Move) (s : Service μ) :
    (s.call i now move).threads = s.threads ∨
      ∃ point point', s.threads.points[i]? = some point ∧
        Moved now s.threads.shared point point' (s.call i now move).threads.shared ∧
        (s.call i now move).threads.points = s.threads.points.set i point' := by
  have hthreads : (s.call i now move).threads = s.threads.step (callStep now) i move := rfl
  rw [hthreads]
  rcases s.threads.step_cases (callStep now) i move with
    hstay | ⟨point, point', shared', hpoint, hact, hstep⟩
  · exact .inl hstay
  · rw [hstep]
    exact .inr ⟨point, point', hpoint, moved_of_callStep hact, rfl⟩

theorem served_call (i now : Nat) (move : Move) (s : Service μ) :
    ∃ outcomes job, Served s.threads.shared (s.call i now move).threads.shared outcomes job := by
  rcases call_cases i now move s with hstay | ⟨point, point', -, hmoved, -⟩
  · rw [hstay]
    exact ⟨[], none, .quiet (List.append_nil _).symm (handed_self _) rfl⟩
  · exact hmoved.served

theorem accepted_call {i now : Nat} {move : Move} {s : Service μ} {outcomes : List Outcome}
    (h : (s.call i now move).threads.shared.outcomes = s.threads.shared.outcomes ++ outcomes) :
    (s.call i now move).accepted =
      s.accepted ++ (outcomes.filterMap Outcome.accepted?).map fun r => (r, s.sink.layout) := by
  have hadded : (s.call i now move).threads.shared.outcomes.drop
      s.threads.shared.outcomes.length = outcomes := by
    rw [h, List.drop_left]
  exact congrArg (fun added => s.accepted ++ (added.filterMap Outcome.accepted?).map fun r =>
    (r, s.sink.layout)) hadded

theorem Kept.call {s : Service μ} (h : s.Kept) (hdropped : s.dropped = false) (i now : Nat)
    (move : Move) : (s.call i now move).Kept := by
  obtain ⟨outcomes, job, hserved⟩ := served_call i now move s
  refine h.handed hserved.handed rfl (accepted_call hserved.ended) hserved.lines ?_ hdropped
    hdropped
  rw [Shared.accepted, hserved.ended, List.filterMap_append]
  rfl

variable [Device μ]

theorem calm_step {s : Service μ} {event : Event μ}
    (hcalm : ∀ i now move, event ≠ .call i now move) :
    (s.step event).threads.points = s.threads.points ∧ (s.step event).accepted = s.accepted ∧
      (s.step event).sink.closed = s.sink.closed ∧
      (s.step event).sink.capacity = s.sink.capacity := by
  cases event with
  | call i now move => exact absurd rfl (hcalm i now move)
  | work =>
      cases hwork : s.sink.work? with
      | none => simp [Service.step, Service.work, hwork]
      | some sink =>
          obtain ⟨-, hsame⟩ := stepped_of_work? hwork
          have hclosed : sink.closed = s.sink.closed := by rw [hsame]
          have hcapacity : sink.capacity = s.sink.capacity := by rw [hsame]
          simp only [Service.step, Service.work, hwork]
          exact ⟨rfl, rfl, hclosed, hcapacity⟩
  | device change => exact ⟨rfl, rfl, rfl, rfl⟩
  | relayout layout =>
      by_cases howned : s.isOwned
      · simp only [Service.step, howned, if_true]
        exact ⟨rfl, rfl, rfl, rfl⟩
      · simp [Service.step, howned]
  | drop =>
      by_cases howned : s.isOwned
      · simp only [Service.step, howned, if_true]
        exact ⟨rfl, rfl, rfl, rfl⟩
      · simp [Service.step, howned]

private theorem Kept.work {s : Service μ} (h : s.Kept) : s.work.Kept := by
  unfold Service.work
  cases hwork : s.sink.work? with
  | none => exact h
  | some sink =>
      obtain ⟨hstep, hsame⟩ := stepped_of_work? hwork
      obtain ⟨htells, hnoted⟩ := h.tells.step follows_act hstep
      exact {
        tells := htells
        sums := h.sums.step (fun _ hended => hended.grows) hstep follows_act h.tells
        row := (congrArg (List.filter Job.isWrite) hnoted.row_eq).trans h.row
        told := h.told
        tickets := by
          rw [hsame]
          exact (congrArg (List.filterMap Job.ticket?) hnoted.row_eq).trans h.tickets
        answers := h.answers.step (fun _ hended => hended.answers_grow) hstep follows_act h.tells
        serving := fun hdropped => (h.serving hdropped).step hstep
        retiring := fun hdropped => (h.retiring hdropped).step hstep
        awake := follows_act.awake hstep }

theorem Kept.step {s : Service μ} (h : s.Kept) (event : Event μ) : (s.step event).Kept := by
  cases event with
  | call i now move =>
      by_cases hdropped : s.dropped
      · simpa [Service.step, hdropped] using h
      · simpa [Service.step, hdropped] using h.call (by simpa using hdropped) i now move
  | work => exact h.work
  | device change =>
      exact {
        tells := h.tells.touch rfl fun _ _ _ hhand =>
          hhand.untouched rfl rfl ⟨[], (List.append_nil _).symm, by simp⟩ rfl
        sums := h.sums.touch rfl
        row := h.row
        told := h.told
        tickets := h.tickets
        answers := h.answers.touch rfl
        serving := h.serving
        retiring := h.retiring
        awake := h.awake }
  | relayout layout =>
      by_cases howned : s.isOwned
      · simp only [Service.step, howned, if_true]
        exact ⟨h.tells, h.sums, h.row, h.told, h.tickets, h.answers, h.serving, h.retiring, h.awake⟩
      · simpa [Service.step, howned] using h
  | drop =>
      by_cases howned : s.isOwned
      · have hdropped : s.dropped = false := by
          simp only [isOwned, Bool.and_eq_true, Bool.not_eq_true'] at howned
          exact howned.1
        simp only [Service.step, howned, if_true]
        exact {
          tells := h.tells.touch rfl fun _ _ _ hhand => hhand
          sums := h.sums
          row := (congrArg (List.filter Job.isWrite)
            (s.history.row_retire s.sink.worker)).trans h.row
          told := h.told
          tickets := (congrArg (List.filterMap Job.ticket?)
            (s.history.row_retire s.sink.worker)).trans h.tickets
          answers := h.answers
          serving := by simp [Service.drop]
          retiring := fun _ => (h.serving hdropped).retire
          awake := h.awake }
      · simpa [Service.step, howned] using h

theorem kept_run {s : Service μ} (h : s.Kept) (events : List (Event μ)) : (s.run events).Kept :=
  run_induction (fun _ event hkept => hkept.step event) events h

omit [Device μ] in
/-- A flush brings the device no bytes, so all of them come from lines. -/
theorem flatMap_bytesOf_filter {shifts : List (Worker.Shift Job (Scene (Recorded μ)))}
    (hended : ∀ shift ∈ shifts, Ended shift) :
    shifts.flatMap bytesOf = (shifts.filter (·.job.isWrite)).flatMap bytesOf := by
  induction shifts with
  | nil => rfl
  | cons shift rest ih =>
      have hrest := ih fun shift hmem => hended shift (List.mem_cons_of_mem _ hmem)
      by_cases hwrite : shift.job.isWrite
      · simp [hwrite, hrest]
      · have hnil := (hended shift List.mem_cons_self).bytesOf_eq_nil (by simpa using hwrite)
        simp [hwrite, hnil, hrest]

omit [Device μ] in
/-- While no line is at hand, the device has what the lines that are over have brought it. -/
theorem Kept.taken_lines {s : Service μ} (h : s.Kept)
    (hnone : ∀ job before, s.history.begun = some (job, before) → job.isWrite = false) :
    s.taken = s.lines.flatMap bytesOf := by
  refine Eq.trans ?_ (h.sums.trans (flatMap_bytesOf_filter h.tells.done))
  cases hbegun : s.history.begun with
  | none => simp [taken, Worker.History.pause, hbegun]
  | some entry =>
      obtain ⟨job, before⟩ := entry
      cases job with
      | write pieces => cases hnone _ before hbegun
      | flush ticket =>
          obtain ⟨now, -, -, htaken, -⟩ := h.tells.hand _ before hbegun
          simpa [taken, Worker.History.pause, hbegun] using htaken

omit [Device μ] in
private theorem Kept.taken_eq {s : Service μ} (h : s.Kept)
    (hfree : ∀ job, s.sink.worker.activity ≠ .busy job) : s.taken = s.lines.flatMap bytesOf :=
  h.taken_lines (by simp [h.tells.begun_of_free hfree])

omit [Device μ] in
theorem Kept.shown_of_split {s : Service μ} (h : s.Kept)
    {earlier later : List (Worker.Shift Job (Scene (Recorded μ)))}
    (hsplit : s.history.shifts = earlier ++ later) :
    ∃ done late, s.accepted = done ++ late ∧
      List.Forall₂ Shows (earlier.filter (·.job.isWrite)) done ∧
      late.map lineOf = (later.map Worker.Shift.job ++ (s.history.begun.map Prod.fst).toList ++
        s.sink.worker.jobs).filter Job.isWrite := by
  have hrow : s.accepted.map lineOf =
      (earlier.filter (·.job.isWrite)).map Worker.Shift.job ++
        (later.map Worker.Shift.job ++ (s.history.begun.map Prod.fst).toList ++
          s.sink.worker.jobs).filter Job.isWrite := by
    rw [← h.row, Worker.History.row, hsplit]
    simp [List.filter_map, Function.comp_def]
  obtain ⟨done, late, hdone, hlines, hlate⟩ := List.map_eq_append_iff.mp hrow
  refine ⟨done, late, hdone, ?_, hlate⟩
  have hjobs : List.Forall₂ (fun line entry => line.job = lineOf entry)
      (earlier.filter (·.job.isWrite)) done := by
    have heq : List.Forall₂ (· = ·) ((earlier.filter (·.job.isWrite)).map Worker.Shift.job)
        (done.map lineOf) := by
      rw [List.forall₂_eq_eq_eq, hlines]
    rwa [List.forall₂_map_left_iff, List.forall₂_map_right_iff] at heq
  have hended : ∀ line ∈ earlier.filter (·.job.isWrite), Ended line := fun line hmem =>
    h.tells.done line (hsplit ▸ List.mem_append_left _ (List.mem_filter.mp hmem).1)
  exact ((List.forall₂_and_left _ done).mpr ⟨hended, hjobs⟩).imp
    fun line entry hboth => hboth.1.shows hboth.2

omit [Device μ] in
private theorem Kept.lines_shown {s : Service μ} (h : s.Kept)
    (hfree : ∀ job, s.sink.worker.activity ≠ .busy job) :
    ∃ written pending, s.accepted = written ++ pending ∧ List.Forall₂ Shows s.lines written ∧
      pending.map lineOf = s.sink.worker.jobs.filter Job.isWrite := by
  have hshown := h.shown_of_split (List.append_nil s.history.shifts).symm
  rwa [h.tells.begun_of_free hfree] at hshown

/-- Whenever the worker is between two jobs, the device has a beginning of the line of every record
that the worker is done with, in the order in which the records were accepted and laid out as the
sink then did, and nothing else; a line that is not whole has been told as a failed write. When the
worker of a dropped sink has come to its end, it is done with every record that was accepted. -/
theorem output_exact (device : μ) (layout : Layout) (capacity now : Nat) (name : String)
    (isConsole : Bool) (callers : Nat) (events : List (Event μ)) :
    let s := (start { new (Recorded.of device) layout capacity now with name, isConsole }
      callers).run events
    s.accepted.map Prod.fst = s.threads.shared.accepted ∧
      ((∀ job, s.sink.worker.activity ≠ .busy job) →
        s.taken = s.lines.flatMap bytesOf ∧
          ∃ written pending, s.accepted = written ++ pending ∧
            List.Forall₂ Shows s.lines written ∧
            (s.dropped = true ∧ (s.sink.worker.activity = .stopped ∨
              s.sink.worker.activity = .crashed) → pending = [])) := by
  intro s
  have h : s.Kept := kept_run (kept_start device layout capacity now name isConsole callers) events
  refine ⟨h.told, fun hfree => ⟨h.taken_eq hfree, ?_⟩⟩
  obtain ⟨written, pending, hsplit, hshown, hpending⟩ := h.lines_shown hfree
  refine ⟨written, pending, hsplit, hshown, ?_⟩
  rintro ⟨hdropped, hended⟩
  have hstopped : s.sink.worker.activity = .stopped :=
    hended.resolve_right h.awake
  rw [(h.retiring hdropped).jobs_of_stopped hstopped] at hpending
  simpa using hpending

/-- A device that is interrupted, takes one byte at a time and has room for the first line and the
beginning of the second; the layout changes between the two records, and the sink is dropped. -/
theorem output_exact_short_of_room :
    let device : Device.Scripted :=
      { script := { short := some 1, room := some 4, interrupts := true } }
    let r : Record :=
      { severity := .error, message := "ab"
        origin := { host := "db", processId := 1, processName := "p" }, thread := "t"
        time := { seconds := 0, nanos := 0 }, fields := [] }
    let events : List (Event Device.Scripted) :=
      [.call 0 1 (.add r), .call 0 1 .resume, .work, .work, .relayout Record.thread,
        .call 0 2 (.add r), .call 0 2 .resume, .drop] ++ List.replicate 12 .work
    let s := (start { new (Recorded.of device) Record.message 8 0 with
      name := streamName, isConsole := false } 1).run events
    s.dropped = true ∧ s.sink.worker.activity = .stopped ∧ s.taken = Text.utf8 "ab\nt" ∧
      s.taken = s.lines.flatMap bytesOf ∧ List.Forall₂ Shows s.lines s.accepted := by
  intro device r events s
  have hdropped : s.dropped = true := by decide +kernel
  have hstopped : s.sink.worker.activity = .stopped := by decide +kernel
  have htaken : s.taken = Text.utf8 "ab\nt" := by decide +kernel
  have hexact := output_exact device Record.message 8 0 streamName false 1 events
  obtain ⟨hlines, written, pending, hsplit, hshown, hall⟩ := hexact.2 (by
    intro job hbusy
    cases hstopped.symm.trans hbusy)
  obtain rfl := hall ⟨hdropped, .inl hstopped⟩
  rw [List.append_nil] at hsplit
  exact ⟨hdropped, hstopped, htaken, hlines, hsplit ▸ hshown⟩

end Service

end LogShipping.LineSink
