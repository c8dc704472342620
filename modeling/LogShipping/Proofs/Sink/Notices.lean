import LogShipping.Proofs.Sink.Output

namespace LogShipping.LineSink

open Device (Recorded)

variable {μ : Type}

def Notice.isFailure : Notice → Bool
  | writeFailed => true
  | flushFailed => true
  | _ => false

def Move.isFlush : Move → Bool
  | flush _ => true
  | close _ => true
  | _ => false

def Point.isShut : Point → Bool
  | shut _ => true
  | _ => false

def Outcome.isRefusal : Outcome → Bool
  | added _ (.error .queueFull) => true
  | _ => false

def Shared.refused (s : Shared μ) : Nat :=
  s.outcomes.countP Outcome.isRefusal

private theorem throttle_countRefusal (now : Nat) (s : LineSink μ) :
    (s.countRefusal now).throttle = (s.throttle.drop now).1 := by
  unfold countRefusal
  cases h : (s.throttle.drop now).2 <;> simp [h, note]

private theorem journal_countRefusal (now : Nat) (s : LineSink μ) :
    (s.countRefusal now).journal =
      s.journal ++ ((s.throttle.drop now).2.map Notice.queueFull).toList := by
  unfold countRefusal
  cases h : (s.throttle.drop now).2 <;> simp [h, note, journal]

theorem throttle_askFlush (now : Nat) (tick : Tick) (timeout : Span) (s : LineSink μ) :
    (s.askFlush now tick timeout).1.throttle = (s.throttle.flush now).1 := by
  have hreport : (s.reportRefusals now).throttle = (s.throttle.flush now).1 := by
    unfold reportRefusals
    cases h : (s.throttle.flush now).2 <;> simp [h, note]
  unfold askFlush
  cases tick.add? timeout <;> exact hreport

private theorem journal_askFlush (now : Nat) (tick : Tick) (timeout : Span) (s : LineSink μ) :
    (s.askFlush now tick timeout).1.journal =
      s.journal ++ ((s.throttle.flush now).2.map Notice.dropped).toList := by
  have hreport : (s.reportRefusals now).journal =
      s.journal ++ ((s.throttle.flush now).2.map Notice.dropped).toList := by
    unfold reportRefusals
    cases h : (s.throttle.flush now).2 <;> simp [h, note, journal]
  unfold askFlush
  cases tick.add? timeout <;> exact hreport

/-- What a move of a caller tells, and what becomes of the count of refusals. -/
inductive Told (now : Nat) (move : Move) (point : Point) (s s' : Shared μ) : Prop
  | nothing (throttle : s'.sink.throttle = s.sink.throttle)
      (journal : s'.sink.journal = s.sink.journal) (refused : s'.refused = s.refused)
  | refusal (throttle : s'.sink.throttle = (s.sink.throttle.drop now).1)
      (journal : s'.sink.journal =
        s.sink.journal ++ ((s.sink.throttle.drop now).2.map Notice.queueFull).toList)
      (refused : s'.refused = s.refused + 1)
  | flush (asked : move.isFlush = true ∨ point.isShut = true)
      (throttle : s'.sink.throttle = (s.sink.throttle.flush now).1)
      (journal : s'.sink.journal =
        s.sink.journal ++ ((s.sink.throttle.flush now).2.map Notice.dropped).toList)
      (refused : s'.refused = s.refused)

private theorem refused_finish (outcome : Outcome) (s : Shared μ) :
    (s.finish outcome).refused = s.refused + if outcome.isRefusal then 1 else 0 := by
  simp [Shared.finish, Shared.refused, List.countP_append, List.countP_singleton]

private theorem isRefusal_ofWait (closes succeeded : Bool) :
    (Outcome.ofWait closes succeeded).isRefusal = false := by
  cases closes <;> rfl

private theorem told_askFlush {now : Nat} {move : Move} {point : Point}
    (asked : move.isFlush = true ∨ point.isShut = true) (wait : Wait) (closes : Bool)
    (s : Shared μ) : Told now move point s (s.askFlush now wait closes).2 :=
  .flush asked (throttle_askFlush now wait.tick wait.timeout s.sink)
    (journal_askFlush now wait.tick wait.timeout s.sink) rfl

private theorem told_resume {now : Nat} {r : Record} {point' : Point} {s s' : Shared μ}
    (h : callStep now .resume (.cleared r) s = some (point', s')) :
    Told now .resume (.cleared r) s s' := by
  cases hsubmit : s.sink.submit? r with
  | some sink =>
      obtain ⟨worker, -, rfl⟩ := Option.map_eq_some_iff.mp hsubmit
      simp only [callStep, hsubmit, Option.some.injEq, Prod.mk.injEq] at h
      obtain ⟨-, rfl⟩ := h
      exact .nothing rfl rfl (refused_finish _ _)
  | none =>
      simp only [callStep, hsubmit, Option.some.injEq, Prod.mk.injEq] at h
      obtain ⟨-, rfl⟩ := h
      exact .refusal (throttle_countRefusal now s.sink) (journal_countRefusal now s.sink)
        (refused_finish _ _)

private theorem told_of_callStep {now : Nat} {move : Move} {point point' : Point} {s s' : Shared μ}
    (h : callStep now move point s = some (point', s')) : Told now move point s s' := by
  have hended (outcome : Outcome) (houtcome : outcome.isRefusal = false) :
      (s.finish outcome).refused = s.refused := by
    rw [refused_finish, houtcome]
    rfl
  cases point with
  | idle =>
      cases move with
      | add r =>
          by_cases hclosed : s.sink.closed
          · simp only [callStep, hclosed, if_true, Option.some.injEq, Prod.mk.injEq] at h
            obtain ⟨-, rfl⟩ := h
            exact .nothing rfl rfl (hended _ rfl)
          · simp only [callStep, hclosed, Bool.false_eq_true, if_false, Option.some.injEq,
              Prod.mk.injEq] at h
            obtain ⟨-, rfl⟩ := h
            exact .nothing rfl rfl rfl
      | flush wait =>
          cases h
          exact told_askFlush (.inl rfl) wait false s
      | close wait =>
          cases h
          exact .nothing rfl rfl rfl
      | resume => cases h
      | giveUp => cases h
  | cleared r =>
      cases move with
      | resume => exact told_resume h
      | _ => cases h
  | shut wait =>
      cases move with
      | resume =>
          cases h
          exact told_askFlush (.inr rfl) wait true s
      | _ => cases h
  | waiting ticket closes =>
      cases move with
      | resume =>
          obtain ⟨ok, -, hnext⟩ := Option.map_eq_some_iff.mp h
          cases hnext
          exact .nothing rfl rfl (hended _ (isRefusal_ofWait closes ok))
      | giveUp =>
          cases h
          exact .nothing rfl rfl (hended _ (isRefusal_ofWait closes false))
      | _ => cases h

private theorem isShut_askFlush (now : Nat) (wait : Wait) (closes : Bool) (s : Shared μ) :
    (s.askFlush now wait closes).1.isShut = false := by
  unfold Shared.askFlush
  cases hticket : (s.sink.askFlush now wait.tick wait.timeout).2 <;> simp [hticket, Point.isShut]

theorem isShut_of_callStep {now : Nat} {move : Move} {point point' : Point} {s s' : Shared μ}
    (h : callStep now move point s = some (point', s')) (hmove : move.isFlush = false) :
    point'.isShut = false := by
  cases moved_of_callStep h with
  | shut wait =>
      cases move with
      | add r => by_cases hclosed : s.sink.closed <;> simp [callStep, hclosed] at h
      | flush wait => cases hmove
      | close wait => cases hmove
      | resume => cases h
      | giveUp => cases h
  | ask wait => exact isShut_askFlush now wait false s
  | askLast wait => exact isShut_askFlush now wait true s
  | _ => rfl

def failure? (shift : Worker.Shift Job (Scene (Recorded μ))) : Option Notice :=
  match shift.job with
  | .write pieces => if bytesOf shift = pieces.flatten then none else some .writeFailed
  | .flush _ => if shift.gain (·.device.flushes) = [true] then none else some .flushFailed

theorem isFailure_of_failure? {shift : Worker.Shift Job (Scene (Recorded μ))} :
    (failure? shift).toList.filter Notice.isFailure = (failure? shift).toList := by
  unfold failure?
  split <;> split <;> rfl

variable [Device μ]

private theorem journal_finished {job now : Job} {before scene scene' : Scene (Recorded μ)}
    (hhand : Progressed job before now scene) (hfinished : act now scene = .finished scene') :
    scene'.journal = scene.journal ++ (failure? ⟨job, before, scene'⟩).toList := by
  cases job with
  | write pieces =>
      -- what the device took of the whole line, earlier attempts included, tells the two ends apart
      obtain ⟨sent, rest, told, rfl, hsplit, htaken, -⟩ := hhand
      have hstep := writeStep_act rest scene
      rw [hfinished] at hstep
      have hbytes (htaken' : scene'.device.taken = scene.device.taken) :
          bytesOf ⟨.write pieces, before, scene'⟩ = sent := by
        simp [bytesOf, Worker.Shift.gain, htaken', htaken]
      cases hstep with
      | finish ended =>
          have hwhole : sent = pieces.flatten := by simpa [ended] using hsplit
          simp [failure?, hbytes rfl, hwhole]
      | fail device left taken =>
          have hpart : sent ≠ pieces.flatten := by
            rw [← hsplit]
            simpa using left
          simp [failure?, hbytes taken, hpart]
  | flush ticket =>
      obtain ⟨rfl, -, hflushes, -⟩ := hhand
      have hgain {after : Scene (Recorded μ)} {ok : Bool}
          (hflushed : after.device.flushes = scene.device.flushes ++ [ok]) :
          (⟨.flush ticket, before, after⟩ : Worker.Shift Job _).gain (·.device.flushes) = [ok] := by
        simp [Worker.Shift.gain, hflushed, hflushes]
      by_cases hready : Device.ready scene.device
      · simp only [act, hready, if_true, Worker.Progress.finished.injEq] at hfinished
        subst hfinished
        unfold failure?
        rw [hgain (flushes_flush scene.device)]
        cases (Device.flush scene.device).1 <;> simp
      · simp [act, hready] at hfinished

private theorem journal_left {job job' : Job} {scene scene' : Scene (Recorded μ)}
    (hleft : act job scene = .left job' scene') : scene'.journal = scene.journal := by
  cases job with
  | write pieces =>
      have hstep := writeStep_act pieces scene
      rw [hleft] at hstep
      cases hstep
      rfl
  | flush ticket =>
      rcases act_flush_cases ticket scene with hact | ⟨after, ok, hact, -⟩
      all_goals
        rw [hact] at hleft
        cases hleft

theorem told_of_stepped {w w' : Worker Job} {scene scene' : Scene (Recorded μ)}
    {history : Worker.History Job (Scene (Recorded μ))}
    (htells : history.Tells Progressed Ended w scene)
    (hstep : Worker.Stepped act w scene w' scene') :
    scene'.journal = scene.journal ∧ (history.next w' scene').shifts = history.shifts ∨
      ∃ shift, scene'.journal = scene.journal ++ (failure? shift).toList ∧
        (history.next w' scene').shifts = history.shifts ++ [shift] := by
  cases hstep with
  | take job rest free popped =>
      have hbegun := htells.begun_of_free (by simp [free])
      exact .inl ⟨rfl, by simp [Worker.History.next, hbegun]⟩
  | stop rest free popped =>
      have hbegun := htells.begun_of_free (by simp [free])
      exact .inl ⟨rfl, by simp [Worker.History.next, hbegun]⟩
  | goOn now now' after busy left =>
      obtain ⟨job, before, hbegun, -⟩ := htells.begun_of_busy busy
      exact .inl ⟨journal_left left, by simp [Worker.History.next, hbegun]⟩
  | finish now after busy finished =>
      obtain ⟨job, before, hbegun, hhand⟩ := htells.begun_of_busy busy
      exact .inr ⟨⟨job, before, scene'⟩, journal_finished hhand finished,
        by simp [Worker.History.next, hbegun]⟩
  | crash now after busy panicked => exact absurd panicked (follows_act.calm now scene scene')

namespace Service

inductive Noticed (s s' : Service μ) : Event μ → Prop
  | nothing (event : Event μ) (throttle : s'.sink.throttle = s.sink.throttle)
      (journal : s'.sink.journal = s.sink.journal)
      (shifts : s'.history.shifts = s.history.shifts)
      (refused : s'.threads.shared.refused = s.threads.shared.refused) : Noticed s s' event
  | refusal (i now : Nat) (move : Move)
      (throttle : s'.sink.throttle = (s.sink.throttle.drop now).1)
      (journal : s'.sink.journal =
        s.sink.journal ++ ((s.sink.throttle.drop now).2.map Notice.queueFull).toList)
      (shifts : s'.history.shifts = s.history.shifts)
      (refused : s'.threads.shared.refused = s.threads.shared.refused + 1) :
      Noticed s s' (.call i now move)
  | flush (i now : Nat) (move : Move)
      (asked : move.isFlush = true ∨ ∃ point ∈ s.threads.points, point.isShut = true)
      (throttle : s'.sink.throttle = (s.sink.throttle.flush now).1)
      (journal : s'.sink.journal =
        s.sink.journal ++ ((s.sink.throttle.flush now).2.map Notice.dropped).toList)
      (shifts : s'.history.shifts = s.history.shifts)
      (refused : s'.threads.shared.refused = s.threads.shared.refused) :
      Noticed s s' (.call i now move)
  | finish (shift : Worker.Shift Job (Scene (Recorded μ)))
      (throttle : s'.sink.throttle = s.sink.throttle)
      (journal : s'.sink.journal = s.sink.journal ++ (failure? shift).toList)
      (shifts : s'.history.shifts = s.history.shifts ++ [shift])
      (refused : s'.threads.shared.refused = s.threads.shared.refused) : Noticed s s' .work

omit [Device μ] in
private theorem noticed_call (i now : Nat) (move : Move) (s : Service μ) :
    Noticed s (s.call i now move) (.call i now move) := by
  have hthreads : (s.call i now move).threads = s.threads.step (callStep now) i move := rfl
  rcases s.threads.step_cases (callStep now) i move with
    hstay | ⟨point, point', shared', hpoint, hact, hstep⟩
  · rw [hstay] at hthreads
    exact .nothing _ (by rw [sink, hthreads]; rfl) (by rw [sink, hthreads]; rfl) rfl
      (by rw [hthreads])
  · rw [hstep] at hthreads
    have hsink : (s.call i now move).sink = shared'.sink := by rw [sink, hthreads]
    have hshared : (s.call i now move).threads.shared = shared' := by rw [hthreads]
    cases told_of_callStep hact with
    | nothing throttle journal refused =>
        exact .nothing _ (hsink ▸ throttle) (hsink ▸ journal) rfl (hshared ▸ refused)
    | refusal throttle journal refused =>
        exact .refusal i now move (hsink ▸ throttle) (hsink ▸ journal) rfl (hshared ▸ refused)
    | flush asked throttle journal refused =>
        exact .flush i now move
          (asked.imp_right fun hshut => ⟨point, List.mem_of_getElem? hpoint, hshut⟩)
          (hsink ▸ throttle) (hsink ▸ journal) rfl (hshared ▸ refused)

private theorem noticed_work {s : Service μ} (h : s.Kept) : Noticed s s.work .work := by
  unfold Service.work
  cases hwork : s.sink.work? with
  | none => exact .nothing _ rfl rfl rfl rfl
  | some sink =>
      obtain ⟨hstep, hsame⟩ := stepped_of_work? hwork
      have hthrottle : sink.throttle = s.sink.throttle := by rw [hsame]
      rcases told_of_stepped h.tells hstep with ⟨hjournal, hshifts⟩ | ⟨shift, hjournal, hshifts⟩
      · exact .nothing _ hthrottle hjournal hshifts rfl
      · exact .finish shift hthrottle hjournal hshifts rfl

theorem noticed_step {s : Service μ} (h : s.Kept) (event : Event μ) :
    Noticed s (s.step event) event := by
  cases event with
  | call i now move =>
      by_cases hdropped : s.dropped
      · simpa [Service.step, hdropped] using Noticed.nothing _ rfl rfl rfl rfl
      · simpa [Service.step, hdropped] using noticed_call i now move s
  | work => exact noticed_work h
  | device change => exact .nothing _ rfl rfl rfl rfl
  | relayout layout =>
      by_cases howned : s.isOwned
      · simp only [Service.step, howned, if_true]
        exact .nothing _ rfl rfl rfl rfl
      · simp only [Service.step, howned]
        exact .nothing _ rfl rfl rfl rfl
  | drop =>
      by_cases howned : s.isOwned
      · simp only [Service.step, howned, if_true]
        exact .nothing _ rfl rfl rfl rfl
      · simp only [Service.step, howned]
        exact .nothing _ rfl rfl rfl rfl

end Service

end LogShipping.LineSink
