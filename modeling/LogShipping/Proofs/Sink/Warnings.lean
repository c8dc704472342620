import LogShipping.Device.Scripted
import LogShipping.Proofs.Sink.Refusals

/-!
How much a sink tells. While less than an interval passes and nobody flushes, refused records are
told once at most, however many there are. But failures do not go through the throttle: the worker
tells each job that fails, so there are as many notices as failures.
-/

namespace LogShipping

namespace Throttle

private theorem lastReport_of_drop {now : Nat} {count : UInt64} {t : Throttle}
    (h : (t.drop now).2 = some count) : (t.drop now).1.lastReport = now := by
  rw [drop, reportIfDue_eq] at h ⊢
  by_cases hdue : t.recordDrop.isDue now t.recordDrop.lastReport
  · simp [hdue, restart]
  · simp [hdue] at h

private theorem drop_of_early {now : Nat} {t : Throttle} (hpos : 0 < t.interval)
    (hearly : now < t.lastReport + t.interval) : t.drop now = (t.recordDrop, none) := by
  have hwait : t.recordDrop.isDue now t.recordDrop.lastReport = false := by
    have hlate : now - t.lastReport < t.interval := by omega
    exact decide_eq_false (Nat.not_le.mpr hlate)
  rw [drop, reportIfDue_eq, hwait]
  rfl

end Throttle

namespace LineSink.Service

open Device (Recorded)

variable {μ : Type}

def Event.reading? : Event μ → Option Nat
  | call _ now _ => some now
  | _ => none

def Event.isFlush : Event μ → Bool
  | call _ _ move => move.isFlush
  | _ => false

/-- No close is half-way to its flush. -/
def Unasked (s : Service μ) : Prop :=
  ∀ point ∈ s.threads.points, point.isShut = false

def refusalNotices (s : Service μ) : List Notice :=
  s.sink.journal.filter (!·.isFailure)

def failureNotices (s : Service μ) : List Notice :=
  s.sink.journal.filter Notice.isFailure

variable [Device μ]

theorem Unasked.step {s : Service μ} (h : s.Unasked) {event : Event μ}
    (hevent : event.isFlush = false) : (s.step event).Unasked := by
  by_cases hcall : ∃ i now move, event = .call i now move
  · obtain ⟨i, now, move, rfl⟩ := hcall
    by_cases hdropped : s.dropped
    · simpa [Service.step, hdropped] using h
    · have hthreads : (s.step (.call i now move)).threads = s.threads.step (callStep now) i move := by
        simp [Service.step, hdropped, Service.call]
      rw [Unasked, hthreads]
      rcases s.threads.step_cases (callStep now) i move with
        hstay | ⟨point, point', shared', -, hact, hstep⟩
      · rw [hstay]
        exact h
      · rw [hstep]
        intro other hmem
        rcases List.mem_or_eq_of_mem_set hmem with hold | rfl
        · exact h other hold
        · exact isShut_of_callStep hact hevent
  · push Not at hcall
    rw [Unasked, (calm_step hcall).1]
    exact h

omit [Device μ] in
private theorem isFailure_report (tell : UInt64 → Notice)
    (htell : ∀ count, (tell count).isFailure = false) (report : Option UInt64) :
    (report.map tell).toList.filter Notice.isFailure = [] := by
  cases report with
  | none => rfl
  | some count => simp [htell]

theorem interval_step {s : Service μ} (h : s.Kept) (event : Event μ) :
    (s.step event).sink.throttle.interval = s.sink.throttle.interval := by
  obtain ⟨refused, -, huse⟩ := uses_step h event
  exact huse.interval

/-- Without a flush no refusal is told but one that the throttle lets through. -/
theorem refusalNotices_step {s : Service μ} (h : s.Kept) (hunasked : s.Unasked) {event : Event μ}
    (hevent : event.isFlush = false) :
    (s.step event).sink.throttle = s.sink.throttle ∧
        (s.step event).refusalNotices = s.refusalNotices ∨
      ∃ now, event.reading? = some now ∧
        (s.step event).sink.throttle = (s.sink.throttle.drop now).1 ∧
        (s.step event).refusalNotices =
          s.refusalNotices ++ ((s.sink.throttle.drop now).2.map Notice.queueFull).toList := by
  unfold refusalNotices
  cases noticed_step h event with
  | nothing _ throttle journal => exact .inl ⟨throttle, by rw [journal]⟩
  | refusal i now move throttle journal =>
      refine .inr ⟨now, rfl, throttle, ?_⟩
      rw [journal, List.filter_append]
      cases (s.sink.throttle.drop now).2 <;> rfl
  | flush i now move asked =>
      rcases asked with hflush | ⟨point, hmem, hshut⟩
      · cases hflush.symm.trans hevent
      · cases hshut.symm.trans (hunasked point hmem)
  | finish shift throttle journal =>
      refine .inl ⟨throttle, ?_⟩
      have hnone : (failure? shift).toList.filter (!·.isFailure) = [] := by
        rw [← isFailure_of_failure?, List.filter_filter]
        simp
      rw [journal, List.filter_append, hnone, List.append_nil]

theorem failureNotices_step {s : Service μ} (h : s.Kept)
    (htold : s.failureNotices = s.history.shifts.filterMap failure?) (event : Event μ) :
    (s.step event).failureNotices = (s.step event).history.shifts.filterMap failure? := by
  unfold failureNotices at *
  cases noticed_step h event with
  | nothing _ throttle journal shifts => rw [journal, shifts, htold]
  | refusal i now move throttle journal shifts =>
      have hnone := isFailure_report Notice.queueFull (fun _ => rfl)
      rw [journal, shifts, List.filter_append, hnone, List.append_nil, htold]
  | flush i now move asked throttle journal shifts =>
      have hnone := isFailure_report Notice.dropped (fun _ => rfl)
      rw [journal, shifts, List.filter_append, hnone, List.append_nil, htold]
  | finish shift throttle journal shifts =>
      rw [journal, shifts, List.filter_append, isFailure_of_failure?, htold,
        List.filterMap_append]
      cases hfailure : failure? shift <;> simp [hfailure]

theorem journal_step {s : Service μ} (h : s.Kept) (event : Event μ) :
    s.sink.journal <+: (s.step event).sink.journal ∧
      s.history.shifts <+: (s.step event).history.shifts := by
  cases noticed_step h event with
  | nothing _ throttle journal shifts =>
      rw [journal, shifts]
      exact ⟨List.prefix_rfl, List.prefix_rfl⟩
  | refusal i now move throttle journal shifts =>
      rw [journal, shifts]
      exact ⟨List.prefix_append _ _, List.prefix_rfl⟩
  | flush i now move asked throttle journal shifts =>
      rw [journal, shifts]
      exact ⟨List.prefix_append _ _, List.prefix_rfl⟩
  | finish shift throttle journal shifts =>
      rw [journal, shifts]
      exact ⟨List.prefix_append _ _, List.prefix_append _ _⟩

/-- Once a refusal has been told, none is told until the interval is over. -/
theorem refusalNotices_of_early {s : Service μ} (h : s.Kept) (hunasked : s.Unasked)
    (hpos : 0 < s.sink.throttle.interval) {stretch : List (Event μ)}
    (hcalm : ∀ event ∈ stretch, event.isFlush = false)
    (hearly : ∀ now ∈ stretch.filterMap Event.reading?,
      now < s.sink.throttle.lastReport + s.sink.throttle.interval) :
    (s.run stretch).refusalNotices = s.refusalNotices := by
  induction stretch generalizing s with
  | nil => rfl
  | cons event rest ih =>
      obtain ⟨hevent, hcalm'⟩ := List.forall_mem_cons.mp hcalm
      have hreadings := ((List.sublist_cons_self event rest).filterMap Event.reading?).subset
      have hearly' : ∀ now ∈ rest.filterMap Event.reading?,
          now < s.sink.throttle.lastReport + s.sink.throttle.interval := fun now hmem =>
        hearly now (hreadings hmem)
      have hnext := h.step event
      have hunasked' := hunasked.step hevent
      rcases refusalNotices_step h hunasked hevent with
        ⟨hthrottle, hsame⟩ | ⟨now, hreading, hthrottle, hmore⟩
      · have hrest := ih hnext hunasked' (hthrottle ▸ hpos) hcalm' (by rwa [hthrottle])
        exact hrest.trans hsame
      · have hnow := hearly now (List.mem_filterMap.mpr ⟨event, List.mem_cons_self, hreading⟩)
        rw [Throttle.drop_of_early hpos hnow] at hthrottle hmore
        have hrest := ih hnext hunasked' (hthrottle ▸ hpos) hcalm' (by
          rw [hthrottle]
          exact hearly')
        exact hrest.trans (hmore.trans (List.append_nil _))

/-- While less than an interval passes, one refusal is told at most. -/
theorem refusalNotices_of_short {s : Service μ} (h : s.Kept) (hunasked : s.Unasked)
    (hpos : 0 < s.sink.throttle.interval) {stretch : List (Event μ)}
    (hcalm : ∀ event ∈ stretch, event.isFlush = false)
    (hshort : ∀ first ∈ stretch.filterMap Event.reading?,
      ∀ last ∈ stretch.filterMap Event.reading?, last < first + s.sink.throttle.interval) :
    ∃ report : Option UInt64,
      (s.run stretch).refusalNotices = s.refusalNotices ++ (report.map Notice.queueFull).toList := by
  induction stretch generalizing s with
  | nil => exact ⟨none, (List.append_nil _).symm⟩
  | cons event rest ih =>
      obtain ⟨hevent, hcalm'⟩ := List.forall_mem_cons.mp hcalm
      have hreadings := ((List.sublist_cons_self event rest).filterMap Event.reading?).subset
      have hshort' : ∀ first ∈ rest.filterMap Event.reading?,
          ∀ last ∈ rest.filterMap Event.reading?, last < first + s.sink.throttle.interval :=
        fun first hfirst last hlast => hshort first (hreadings hfirst) last (hreadings hlast)
      have hnext := h.step event
      have hunasked' := hunasked.step hevent
      rcases refusalNotices_step h hunasked hevent with
        ⟨hthrottle, hsame⟩ | ⟨now, hreading, hthrottle, hmore⟩
      · obtain ⟨report, hreport⟩ := ih hnext hunasked' (hthrottle ▸ hpos) hcalm' (by rwa [hthrottle])
        exact ⟨report, hreport.trans (by rw [hsame])⟩
      · have hinterval := interval_step h event
        -- a refusal that is not told leaves the time alone; one that is told starts the interval
        cases hreport : (s.sink.throttle.drop now).2 with
        | none =>
            obtain ⟨report, hlater⟩ := ih hnext hunasked' (by rwa [hinterval]) hcalm' (by
              rwa [hinterval])
            rw [hreport] at hmore
            exact ⟨report, hlater.trans (by rw [hmore]; simp)⟩
        | some count =>
            have hnow : now ∈ (event :: rest).filterMap Event.reading? :=
              List.mem_filterMap.mpr ⟨event, List.mem_cons_self, hreading⟩
            have hrest := refusalNotices_of_early hnext hunasked' (by rwa [hinterval]) hcalm' (by
              intro later hlater
              rw [hinterval, hthrottle, Throttle.lastReport_of_drop hreport]
              exact hshort now hnow later (hreadings hlater))
            exact ⟨some count, by rw [← hreport, ← hmore]; exact hrest⟩

theorem failureNotices_run {s : Service μ} (h : s.Kept)
    (htold : s.failureNotices = s.history.shifts.filterMap failure?) (events : List (Event μ)) :
    (s.run events).failureNotices = (s.run events).history.shifts.filterMap failure? := by
  induction events generalizing s with
  | nil => exact htold
  | cons event rest ih => exact ih (h.step event) (failureNotices_step h htold event)

theorem journal_run {s : Service μ} (h : s.Kept) (events : List (Event μ)) :
    s.sink.journal <+: (s.run events).sink.journal ∧
      s.history.shifts <+: (s.run events).history.shifts := by
  induction events generalizing s with
  | nil => exact ⟨List.prefix_rfl, List.prefix_rfl⟩
  | cons event rest ih =>
      obtain ⟨hjournal, hshifts⟩ := journal_step h event
      obtain ⟨hjournal', hshifts'⟩ := ih (h.step event)
      exact ⟨hjournal.trans hjournal', hshifts.trans hshifts'⟩

theorem interval_run {s : Service μ} (h : s.Kept) (events : List (Event μ)) :
    (s.run events).sink.throttle.interval = s.sink.throttle.interval := by
  induction events generalizing s with
  | nil => rfl
  | cons event rest ih => exact (ih (h.step event)).trans (interval_step h event)

/-- In any stretch of a run in which less than an interval passes and no flush is handed in, refusals
are told once at most. But each line that the device did not take whole, and each flush of the device
that failed, is told as well, however many were told just before. -/
theorem notices_accounted (device : μ) (layout : Layout) (capacity now : Nat) (name : String)
    (isConsole : Bool) (callers : Nat) (events stretch : List (Event μ)) :
    let s := (start { new (Recorded.of device) layout capacity now with name, isConsole }
      callers).run events
    s.Unasked → (∀ event ∈ stretch, event.isFlush = false) →
      (∀ first ∈ stretch.filterMap Event.reading?, ∀ last ∈ stretch.filterMap Event.reading?,
        last < first + Throttle.standardInterval) →
      ∃ told ended, ∃ report : Option UInt64,
        (s.run stretch).sink.journal = s.sink.journal ++ told ∧
        (s.run stretch).history.shifts = s.history.shifts ++ ended ∧
        told.filter Notice.isFailure = ended.filterMap failure? ∧
        told.filter (!·.isFailure) = (report.map Notice.queueFull).toList := by
  intro s hunasked hcalm hshort
  have hstart := kept_start device layout capacity now name isConsole callers
  have h : s.Kept := kept_run hstart events
  have hinterval : s.sink.throttle.interval = Throttle.standardInterval :=
    interval_run hstart events
  have hfailures : s.failureNotices = s.history.shifts.filterMap failure? :=
    failureNotices_run hstart rfl events
  obtain ⟨⟨told, htold⟩, ⟨ended, hended⟩⟩ := journal_run h stretch
  obtain ⟨report, hreport⟩ := refusalNotices_of_short h hunasked (hinterval ▸ by decide) hcalm
    (by rwa [hinterval])
  refine ⟨told, ended, report, htold.symm, hended.symm, ?_, ?_⟩
  · have hlater := failureNotices_run h hfailures stretch
    rw [failureNotices, ← htold, ← hended, List.filter_append, List.filterMap_append,
      ← hfailures] at hlater
    exact List.append_cancel_left hlater
  · rw [refusalNotices, ← htold, List.filter_append] at hreport
    exact List.append_cancel_left hreport

/-- One record waits from before the stretch, and in it two are refused, of which the first is told.
Then the device fails. -/
theorem notices_accounted_full :
    let device : Device.Scripted := { script := { fails := some .brokenPipe } }
    let r : Record :=
      { severity := .error, message := "a"
        origin := { host := "db", processId := 1, processName := "p" }, thread := "t"
        time := { seconds := 0, nanos := 0 }, fields := [] }
    let add (now : Nat) : List (Event Device.Scripted) :=
      [.call 0 now (.add r), .call 0 now .resume]
    let stretch := add 5002 ++ add 5003 ++ List.replicate 3 .work
    let s := (start { new (Recorded.of device) Record.message 1 5000 with
      name := streamName, isConsole := false } 1).run (add 5001)
    s.Unasked ∧ (∀ event ∈ stretch, event.isFlush = false) ∧
      (∀ first ∈ stretch.filterMap Event.reading?, ∀ last ∈ stretch.filterMap Event.reading?,
        last < first + Throttle.standardInterval) ∧
      (s.run stretch).sink.journal = [.queueFull 1, .writeFailed] ∧
      ∃ told, (s.run stretch).sink.journal = s.sink.journal ++ told ∧
        ∃ report : Option UInt64,
          told.filter (!·.isFailure) = (report.map Notice.queueFull).toList := by
  intro device r add stretch s
  have hunasked : s.Unasked := by
    unfold Unasked
    decide +kernel
  have hcalm : ∀ event ∈ stretch, event.isFlush = false := by decide +kernel
  have hshort : ∀ first ∈ stretch.filterMap Event.reading?,
      ∀ last ∈ stretch.filterMap Event.reading?, last < first + Throttle.standardInterval := by
    decide +kernel
  obtain ⟨told, -, report, hjournal, -, -, hreport⟩ :=
    notices_accounted device Record.message 1 5000 streamName false 1 (add 5001) stretch hunasked
      hcalm hshort
  exact ⟨hunasked, hcalm, hshort, by decide +kernel, told, hjournal, report, hreport⟩

/-- The device fails twice while the clock stands still, and this is told twice. -/
theorem failures_told_at_once :
    let device : Device.Scripted := { script := { fails := some .brokenPipe } }
    let r : Record :=
      { severity := .error, message := "a"
        origin := { host := "db", processId := 1, processName := "p" }, thread := "t"
        time := { seconds := 0, nanos := 0 }, fields := [] }
    let add : List (Event Device.Scripted) := [.call 0 1 (.add r), .call 0 1 .resume]
    let stretch := add ++ add ++ List.replicate 4 .work
    let s := start { new (Recorded.of device) Record.message 8 0 with
      name := streamName, isConsole := false } 1
    (∀ event ∈ stretch, event.isFlush = false) ∧
      (∀ now ∈ stretch.filterMap Event.reading?, now = 1) ∧ s.sink.journal = [] ∧
      (s.run stretch).sink.journal = [.writeFailed, .writeFailed] := by
  decide +kernel

end LineSink.Service

end LogShipping
