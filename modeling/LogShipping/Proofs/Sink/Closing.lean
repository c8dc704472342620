import LogShipping.Device.Scripted
import LogShipping.Proofs.Sink.Barrier

namespace LogShipping.LineSink

open Device (Recorded)

variable {μ : Type}

def Point.cleared? : Point → Option Record
  | cleared r => some r
  | _ => none

/-- At a closed sink no call finds the sink open, and one accepts a record only if it had found it
open before. -/
theorem Moved.at_closed {now : Nat} {point point' : Point} {s s' : Shared μ}
    (h : Moved now s point point' s') (hclosed : s.sink.closed = true) :
    point'.cleared? = none ∧ ∃ outcomes, s'.outcomes = s.outcomes ++ outcomes ∧
      (outcomes.filterMap Outcome.accepted?).Sublist point.cleared?.toList := by
  have hask (wait : Wait) (closes : Bool) : (s.askFlush now wait closes).1.cleared? = none := by
    unfold Shared.askFlush
    cases hticket : (s.sink.askFlush now wait.tick wait.timeout).2 <;>
      simp [hticket, Point.cleared?]
  cases h with
  | reject r closed => exact ⟨rfl, _, rfl, List.nil_sublist _⟩
  | clear r unclosed => cases hclosed.symm.trans unclosed
  | submit r sink room => exact ⟨rfl, _, rfl, List.Sublist.refl _⟩
  | refuse r full => exact ⟨rfl, _, rfl, List.nil_sublist _⟩
  | shut wait => exact ⟨rfl, [], (List.append_nil _).symm, List.nil_sublist _⟩
  | ask wait => exact ⟨hask wait false, [], (List.append_nil _).symm, List.nil_sublist _⟩
  | askLast wait => exact ⟨hask wait true, [], (List.append_nil _).symm, List.nil_sublist _⟩
  | answer ticket closes ok answered => exact ⟨rfl, _, rfl, by simp [accepted?_ofWait]⟩
  | giveUp ticket closes => exact ⟨rfl, _, rfl, by simp [accepted?_ofWait]⟩

theorem Moved.ended_true {now : Nat} {point point' : Point} {closes : Bool} {s s' : Shared μ}
    (h : Moved now s point point' s')
    (hended : s'.outcomes = s.outcomes ++ [.ofWait closes true]) :
    ∃ ticket, point = .waiting ticket closes ∧ s.sink.answer? ticket = some true := by
  have hadded (r : Record) (result : Except Refusal Unit) :
      s.outcomes ++ [.added r result] ≠ s.outcomes ++ [.ofWait closes true] := by
    cases closes <;> simp [Outcome.ofWait]
  have hnone : s.outcomes ≠ s.outcomes ++ [.ofWait closes true] := by simp
  cases h with
  | answer ticket closes' ok answered =>
      have hsame : Outcome.ofWait closes' ok = .ofWait closes true := by
        simpa [Shared.finish] using hended
      cases closes <;> cases closes' <;> cases hsame <;> exact ⟨ticket, rfl, answered⟩
  | giveUp ticket closes' =>
      have hsame : Outcome.ofWait closes' false = .ofWait closes true := by
        simpa [Shared.finish] using hended
      cases closes <;> cases closes' <;> cases hsame
  | reject r closed => exact absurd hended (hadded r _)
  | submit r sink room => exact absurd hended (hadded r _)
  | refuse r full => exact absurd hended (hadded r _)
  | clear r unclosed => exact absurd hended hnone
  | shut wait => exact absurd hended hnone
  | ask wait => exact absurd hended hnone
  | askLast wait => exact absurd hended hnone

namespace Service

/-- The records whose calls have found the sink open and have not handed them in. -/
def underway (s : Service μ) : List Record :=
  s.threads.points.filterMap Point.cleared?

private theorem accepted_call_of_closed {s : Service μ} (hclosed : s.sink.closed = true)
    (i now : Nat) (move : Move) :
    ∃ added, (s.call i now move).accepted = s.accepted ++ added ∧
      (added.map Prod.fst ++ (s.call i now move).underway).Subperm s.underway := by
  rcases call_cases i now move s with hstay | ⟨point, point', hpoint, hmoved, hpoints⟩
  · refine ⟨[], ?_, ?_⟩
    · exact accepted_call (by rw [hstay, List.append_nil])
    · rw [underway, hstay]
      exact List.Subperm.refl _
  · obtain ⟨hnone, outcomes, hended, hsub⟩ := hmoved.at_closed hclosed
    refine ⟨_, accepted_call hended, ?_⟩
    have htrade := filterMap_set_perm Point.cleared? hpoint point'
    rw [hnone, ← hpoints] at htrade
    have hmap : ((outcomes.filterMap Outcome.accepted?).map fun r => (r, s.sink.layout)).map
        Prod.fst = outcomes.filterMap Outcome.accepted? := by
      simp [Function.comp_def]
    rw [hmap]
    exact (hsub.append_right _).subperm.trans htrade.subperm

private theorem waiting_of_closed_true {i now : Nat} {move : Move} {s : Service μ}
    (hended : (s.call i now move).threads.shared.outcomes =
      s.threads.shared.outcomes ++ [.closed true]) :
    ∃ ticket, s.threads.points[i]? = some (.waiting ticket true) ∧
      s.sink.answer? ticket = some true := by
  rcases call_cases i now move s with hstay | ⟨point, point', hpoint, hmoved, -⟩
  · simp [hstay] at hended
  · have hclosed : (s.call i now move).threads.shared.outcomes =
        s.threads.shared.outcomes ++ [.ofWait true true] := hended
    obtain ⟨ticket, rfl, hanswer⟩ := hmoved.ended_true hclosed
    exact ⟨ticket, hpoint, hanswer⟩

/-- The sink has been closed since it was `before`, and the call of caller `i` is behind what was
accepted then. -/
structure ClosedSince (before : Service μ) (i : Nat) (s : Service μ) : Prop where
  kept : s.Kept
  closed : s.sink.closed = true
  /-- Every record accepted since comes from a call that was under way. -/
  accepted : ∃ passed, s.accepted = before.accepted ++ passed ∧
    (passed.map Prod.fst ++ s.underway).Subperm before.underway
  guards : ∀ ticket closes, s.threads.points[i]? = some (.waiting ticket closes) →
    Guards (List.range before.accepted.length) ticket s

private theorem ClosedSince.call {before s : Service μ} {i : Nat} (h : ClosedSince before i s)
    (hdropped : s.dropped = false) (j now : Nat) (move : Move) :
    ClosedSince before i (s.call j now move) := by
  obtain ⟨outcomes, job, hserved⟩ := served_call j now move s
  obtain ⟨passed, hpassed, hunder⟩ := h.accepted
  obtain ⟨added, hadded, hmore⟩ := accepted_call_of_closed h.closed j now move
  refine ⟨h.kept.call hdropped j now move, hserved.handed.closed h.closed,
    ⟨passed ++ added, ?_, ?_⟩, ?_⟩
  · rw [hadded, hpassed, List.append_assoc]
  · rw [List.map_append, List.append_assoc]
    exact ((List.subperm_append_left _).mpr hmore).trans hunder
  · intro ticket closes hwaiting
    have hgrown := grown_call j now move s
    rcases call_cases j now move s with hstay | ⟨point, point', hpoint, hmoved, hpoints⟩
    · rw [hstay] at hwaiting
      exact (h.guards ticket closes hwaiting).grown hgrown
    · by_cases hj : j = i
      · subst hj
        obtain ⟨hlt, -⟩ := List.getElem?_eq_some_iff.mp hpoint
        rw [hpoints, List.getElem?_set_self hlt] at hwaiting
        cases Option.some.inj hwaiting
        refine ⟨s.history.row s.sink.worker, [], hmoved.handed_flush.row s.history, ?_⟩
        intro place hplace
        rw [h.kept.row, List.length_map, hpassed, List.length_append]
        exact Nat.lt_add_right _ (List.mem_range.mp hplace)
      · rw [hpoints, List.getElem?_set_ne hj] at hwaiting
        exact (h.guards ticket closes hwaiting).grown hgrown

private theorem closedSince_close {s : Service μ} (h : s.Kept) (hdropped : s.dropped = false)
    {i : Nat} (hidle : s.threads.points[i]? = some .idle) (now : Nat) (wait : Wait) :
    ClosedSince s i (s.call i now (.close wait)) := by
  have hthreads : (s.call i now (.close wait)).threads =
      ⟨{ s.threads.shared with sink := s.sink.shut }, s.threads.points.set i (.shut wait)⟩ := by
    simp [Service.call, Threads.step, hidle, callStep, Service.sink]
  refine ⟨h.call hdropped i now _, ?_, ⟨[], ?_, ?_⟩, ?_⟩
  · rw [Service.sink, hthreads]
    rfl
  · exact accepted_call (by rw [hthreads, List.append_nil])
  · have htrade := filterMap_set_perm Point.cleared? hidle (.shut wait)
    rw [underway, hthreads]
    exact htrade.subperm
  · intro ticket closes hwaiting
    obtain ⟨hlt, -⟩ := List.getElem?_eq_some_iff.mp hidle
    rw [hthreads] at hwaiting
    simp [List.getElem?_set_self hlt] at hwaiting

variable [Device μ]

theorem grown_step {s : Service μ} (h : s.Kept) (event : Event μ) : Grown s (s.step event) := by
  have hself : Grown s s := ⟨List.prefix_rfl, List.prefix_rfl⟩
  cases event with
  | call i now move =>
      by_cases hdropped : s.dropped
      · simpa [Service.step, hdropped] using hself
      · simpa [Service.step, hdropped] using grown_call i now move s
  | work => exact grown_work h
  | device change => exact grown_onDevice change s
  | relayout layout =>
      by_cases howned : s.isOwned
      · simp only [Service.step, howned, if_true]
        exact ⟨List.prefix_rfl, List.prefix_rfl⟩
      · simpa [Service.step, howned] using hself
  | drop =>
      by_cases howned : s.isOwned
      · simp only [Service.step, howned, if_true]
        refine ⟨?_, List.prefix_rfl⟩
        have hrow : s.drop.history.row s.drop.sink.worker = s.history.row s.sink.worker :=
          s.history.row_retire s.sink.worker
        exact hrow ▸ List.prefix_rfl
      · simpa [Service.step, howned] using hself

theorem ClosedSince.step {before s : Service μ} {i : Nat} (h : ClosedSince before i s)
    (event : Event μ) : ClosedSince before i (s.step event) := by
  by_cases hcall : ∃ j now move, event = .call j now move
  · obtain ⟨j, now, move, rfl⟩ := hcall
    by_cases hdropped : s.dropped
    · simpa [Service.step, hdropped] using h
    · simpa [Service.step, hdropped] using h.call (by simpa using hdropped) j now move
  · push Not at hcall
    obtain ⟨hpoints, haccepted, hclosed, -⟩ := calm_step hcall
    obtain ⟨passed, hpassed, hunder⟩ := h.accepted
    refine ⟨h.kept.step event, hclosed.trans h.closed, ⟨passed, haccepted.trans hpassed, ?_⟩, ?_⟩
    · rwa [underway, hpoints]
    · intro ticket closes hwaiting
      rw [hpoints] at hwaiting
      exact (h.guards ticket closes hwaiting).grown (grown_step h.kept event)

theorem closedSince_run {before s : Service μ} {i : Nat} (h : ClosedSince before i s)
    (events : List (Event μ)) : ClosedSince before i (s.run events) :=
  run_induction (fun _ event hsince => hsince.step event) events h

theorem shifts_step (event : Event μ) (s : Service μ) :
    s.history.shifts <+: (s.step event).history.shifts := by
  cases event with
  | call i now move =>
      by_cases hdropped : s.dropped <;> simp [Service.step, hdropped, Service.call]
  | work =>
      cases hwork : s.sink.work? with
      | none => simp [Service.step, Service.work, hwork]
      | some sink =>
          simp only [Service.step, Service.work, hwork]
          exact s.history.shifts_next sink.worker sink.scene
  | device change => exact List.prefix_rfl
  | relayout layout => by_cases howned : s.isOwned <;> simp [Service.step, howned, onSink]
  | drop => by_cases howned : s.isOwned <;> simp [Service.step, howned, Service.drop, onSink]

theorem shifts_run (events : List (Event μ)) (s : Service μ) :
    s.history.shifts <+: (s.run events).history.shifts :=
  run_induction (P := fun s' => s.history.shifts <+: s'.history.shifts)
    (fun s' event hprefix => hprefix.trans (shifts_step event s')) events List.prefix_rfl

theorem dropped_step {s : Service μ} (hdropped : s.dropped = true) (event : Event μ) :
    (s.step event).dropped = true := by
  have howned : s.isOwned = false := by simp [isOwned, hdropped]
  cases event with
  | work =>
      cases hwork : s.sink.work? <;> simp [Service.step, Service.work, hwork, onSink, hdropped]
  | device change => exact hdropped
  | _ => simp [Service.step, howned, hdropped]

theorem dropped_run {s : Service μ} (hdropped : s.dropped = true) (events : List (Event μ)) :
    (s.run events).dropped = true :=
  run_induction (P := fun s' => s'.dropped = true) (fun _ event h => dropped_step h event) events
    hdropped

omit [Device μ] in
private theorem Kept.taken_of_split {s : Service μ} (h : s.Kept)
    {earlier later : List (Worker.Shift Job (Scene (Recorded μ)))}
    (hsplit : s.history.shifts = earlier ++ later)
    (hnone : (later.map Worker.Shift.job ++ (s.history.begun.map Prod.fst).toList ++
      s.sink.worker.jobs).filter Job.isWrite = []) :
    s.taken = (earlier.filter (·.job.isWrite)).flatMap bytesOf := by
  rw [List.filter_append, List.filter_append, List.append_eq_nil_iff,
    List.append_eq_nil_iff] at hnone
  obtain ⟨⟨hlater, hbegun⟩, -⟩ := hnone
  have hlines : s.lines = earlier.filter (·.job.isWrite) := by
    rw [lines, hsplit, List.filter_append]
    rw [List.filter_map, List.map_eq_nil_iff] at hlater
    exact (congrArg _ hlater).trans (List.append_nil _)
  rw [← hlines]
  refine h.taken_lines fun job before hjob => ?_
  simpa [hjob] using hbegun

omit [Device μ] in
/-- When the lines of all that was accepted before are among the first shifts, the records accepted
behind these shifts were under way. -/
theorem ClosedSince.parts {before s : Service μ} {i : Nat} (h : ClosedSince before i s)
    {earlier later : List (Worker.Shift Job (Scene (Recorded μ)))}
    (hsplit : s.history.shifts = earlier ++ later)
    (hahead : before.accepted.length ≤ (earlier.filter (·.job.isWrite)).length) :
    ∃ done late, s.accepted = done ++ late ∧
      (done ++ late).map Prod.fst = s.threads.shared.accepted ∧
      List.Forall₂ Shows (earlier.filter (·.job.isWrite)) done ∧
      before.accepted <+: done ∧
      (late.map Prod.fst).Subperm before.underway ∧
      (late = [] → s.taken = (earlier.filter (·.job.isWrite)).flatMap bytesOf) := by
  obtain ⟨done, late, haccepted, hshown, hlate⟩ := h.kept.shown_of_split hsplit
  obtain ⟨passed, hpassed, hunder⟩ := h.accepted
  obtain ⟨more, rfl⟩ : before.accepted <+: done :=
    List.prefix_of_prefix_length_le ⟨passed, hpassed.symm⟩ ⟨late, haccepted.symm⟩
      (hshown.length_eq ▸ hahead)
  have hsame : passed = more ++ late := by
    rw [hpassed, List.append_assoc] at haccepted
    exact List.append_cancel_left haccepted
  refine ⟨_, late, haccepted, haccepted ▸ h.kept.told, hshown, List.prefix_append _ _, ?_, ?_⟩
  · rw [hsame, List.map_append] at hunder
    have hsub : (late.map Prod.fst).Sublist
        (more.map Prod.fst ++ late.map Prod.fst ++ s.underway) :=
      (List.sublist_append_right _ _).trans (List.sublist_append_left _ _)
    exact hsub.subperm.trans hunder
  · rintro rfl
    exact h.kept.taken_of_split hsplit hlate.symm

/-- When a close has returned true, the worker had been done with the line of every record accepted
before the close began, and of every other one handed in in front of the last flush, and then that
flush succeeded. A record accepted behind it belongs to a call that was under way when the close
began. If there is none, nothing is written any more. -/
theorem close_parts (device : μ) (layout : Layout) (capacity now : Nat) (name : String)
    (isConsole : Bool) (callers : Nat) (first : List (Event μ)) (i began : Nat) (wait : Wait)
    (during : List (Event μ)) (ended : Nat) :
    let before := (start { new (Recorded.of device) layout capacity now with name, isConsole }
      callers).run first
    let waited := (before.step (.call i began (.close wait))).run during
    let after := waited.step (.call i ended .resume)
    before.threads.points[i]? = some .idle →
    after.threads.shared.outcomes = waited.threads.shared.outcomes ++ [.closed true] →
    ∃ ticket earlier flush rest,
      waited.threads.points[i]? = some (.waiting ticket true) ∧
      after.history.shifts = earlier ++ flush :: rest ∧
      flush.job = .flush ticket ∧ flush.gain (·.device.flushes) = [true] ∧
      ∀ later, ∃ done late,
        (after.run later).accepted = done ++ late ∧
        (done ++ late).map Prod.fst = (after.run later).threads.shared.accepted ∧
        List.Forall₂ Shows (earlier.filter (·.job.isWrite)) done ∧
        before.accepted <+: done ∧
        (late.map Prod.fst).Subperm before.underway ∧
        (late = [] →
          (after.run later).taken = (earlier.filter (·.job.isWrite)).flatMap bytesOf) := by
  intro before waited after hidle hended
  have hkept : before.Kept :=
    kept_run (kept_start device layout capacity now name isConsole callers) first
  -- A call at a dropped sink has no outcome, so the sink was not dropped when the close began.
  have hheld : waited.dropped = false := by
    cases hdropped : waited.dropped with
    | false => rfl
    | true => simp [after, Service.step, hdropped] at hended
  have hopen : before.dropped = false := by
    cases hdropped : before.dropped with
    | false => rfl
    | true => cases hheld.symm.trans (dropped_run (dropped_step hdropped _) during)
  have hwaited : ClosedSince before i waited := by
    refine closedSince_run ?_ during
    simpa [Service.step, hopen] using closedSince_close hkept hopen hidle began wait
  have hafter : after = waited.call i ended .resume := by simp [after, Service.step, hheld]
  obtain ⟨ticket, hpoint, hanswer⟩ := waiting_of_closed_true (hafter ▸ hended)
  obtain ⟨earlier, flush, rest, hsplit, hjob, hflushed⟩ := hwaited.kept.answered hanswer
  have hsame : after.history = waited.history := by
    rw [hafter]
    rfl
  refine ⟨ticket, earlier, flush, rest, hpoint, hsame ▸ hsplit, hjob, hflushed, fun later => ?_⟩
  have hlast : ClosedSince before i (after.run later) := closedSince_run (hwaited.step _) later
  obtain ⟨more, hmore⟩ := shifts_run later after
  have hshifts : (after.run later).history.shifts = earlier ++ (flush :: rest ++ more) := by
    rw [← hmore, hsame, hsplit, List.append_assoc]
  refine hlast.parts hshifts (Nat.le_of_not_lt fun hlt => ?_)
  exact Nat.lt_irrefl _ ((hwaited.guards ticket true hpoint).lt_of_split hwaited.kept hsplit hjob
    (List.mem_range.mpr hlt))

/-- A close returns true before any record has been accepted. Then a record is accepted and written
whose call had found the sink open. -/
theorem accepted_behind_close :
    let r : Record :=
      { severity := .error, message := "a"
        origin := { host := "db", processId := 1, processName := "p" }, thread := "t"
        time := { seconds := 0, nanos := 0 }, fields := [] }
    let device : Device.Scripted := {}
    let after := (start (new (Recorded.of device) Record.message 8 0) 2).run
      [.call 0 1 (.add r), .call 1 2 (.close ⟨.start, .ofSeconds 5⟩), .call 1 2 .resume, .work,
        .work, .call 1 3 .resume]
    let last := after.run (.call 0 4 .resume :: List.replicate 4 .work)
    after.threads.shared.outcomes = [.closed true] ∧ after.accepted.map Prod.fst = [] ∧
      after.taken = [] ∧
      last.threads.shared.outcomes = [.closed true, .added r (.ok ())] ∧
      last.taken = Text.utf8 "a\n" := by
  decide +kernel

/-- One record is accepted before the close begins, and two are under way then: the line of the one
is handed in in front of the last flush, that of the other when the close has returned. -/
theorem close_parts_three :
    let r (message : String) : Record :=
      { severity := .error, message
        origin := { host := "db", processId := 1, processName := "p" }, thread := "t"
        time := { seconds := 0, nanos := 0 }, fields := [] }
    let device : Device.Scripted := {}
    let first : List (Event Device.Scripted) :=
      [.call 0 1 (.add (r "a")), .call 0 1 .resume, .call 0 1 (.add (r "b")),
        .call 1 1 (.add (r "c"))]
    let during : List (Event Device.Scripted) :=
      [.call 0 2 .resume, .call 2 2 .resume] ++ List.replicate 14 .work
    let before := (start { new (Recorded.of device) Record.message 8 0 with
      name := streamName, isConsole := false } 3).run first
    let waited := (before.step (.call 2 2 (.close ⟨.start, .ofSeconds 5⟩))).run during
    let after := waited.step (.call 2 3 .resume)
    let last := after.run (.call 1 4 .resume :: List.replicate 6 .work)
    before.underway = [r "b", r "c"] ∧ after.taken = Text.utf8 "a\nb\n" ∧
      last.taken = Text.utf8 "a\nb\nc\n" ∧
      ∃ done late, last.accepted = done ++ late ∧ before.accepted <+: done ∧
        (late.map Prod.fst).Subperm before.underway := by
  intro r device first during before waited after last
  have hunderway : before.underway = [r "b", r "c"] := by decide +kernel
  have hafter : after.taken = Text.utf8 "a\nb\n" := by decide +kernel
  have hlast : last.taken = Text.utf8 "a\nb\nc\n" := by decide +kernel
  obtain ⟨ticket, earlier, flush, rest, -, -, -, -, hlater⟩ :=
    close_parts device Record.message 8 0 streamName false 3 first 2 2 ⟨.start, .ofSeconds 5⟩
      during 3 (by decide +kernel) (by decide +kernel)
  obtain ⟨done, late, haccepted, -, -, hfirst, hlate, -⟩ :=
    hlater (.call 1 4 .resume :: List.replicate 6 .work)
  exact ⟨hunderway, hafter, hlast, done, late, haccepted, hfirst, hlate⟩

end Service

end LogShipping.LineSink
