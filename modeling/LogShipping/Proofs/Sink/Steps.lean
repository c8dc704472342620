import LogShipping.Proofs.Worker.Steps
import LogShipping.Sink.Threads

namespace LogShipping.LineSink

variable {μ : Type}

def Job.ticket? : Job → Option Nat
  | write _ => none
  | flush ticket => some ticket

structure Handed (job : Option Job) (s s' : LineSink μ) : Prop where
  worker : s'.worker = job.elim s.worker fun job => s.worker.submit job
  layout : s'.layout = s.layout
  capacity : s'.capacity = s.capacity
  closed : s.closed = true → s'.closed = true
  device : s'.scene.device = s.scene.device
  answers : s'.scene.answers = s.scene.answers
  journal : ∃ told, s'.scene.journal = s.scene.journal ++ told ∧ .writeFailed ∉ told
  tickets : List.range s'.tickets = List.range s.tickets ++ job.toList.filterMap Job.ticket?

theorem handed_self (s : LineSink μ) : Handed none s s :=
  ⟨rfl, rfl, rfl, id, rfl, rfl, ⟨[], by simp⟩, by simp⟩

private theorem Handed.after {job : Option Job} {s s' s'' : LineSink μ} (first : Handed none s s')
    (second : Handed job s' s'') : Handed job s s'' := by
  obtain ⟨told, htold, hquiet⟩ := first.journal
  obtain ⟨told', htold', hquiet'⟩ := second.journal
  refine ⟨?_, second.layout.trans first.layout, second.capacity.trans first.capacity,
    second.closed ∘ first.closed, second.device.trans first.device,
    second.answers.trans first.answers, ⟨told ++ told', ?_, ?_⟩, ?_⟩
  · rw [second.worker, first.worker]
    rfl
  · rw [htold', htold, List.append_assoc]
  · simp [hquiet, hquiet']
  · rw [second.tickets, first.tickets]
    simp

private theorem handed_note {notice : Notice} (hquiet : notice ≠ .writeFailed) (s : LineSink μ) :
    Handed none s (s.note notice) :=
  ⟨rfl, rfl, rfl, id, rfl, rfl, ⟨[notice], rfl, by simpa using hquiet.symm⟩, by simp [note]⟩

private theorem Notice.queueFull_ne_writeFailed (count : UInt64) :
    queueFull count ≠ writeFailed := by
  simp

private theorem Notice.dropped_ne_writeFailed (count : UInt64) : dropped count ≠ writeFailed := by
  simp

private theorem handed_withThrottle (throttle : Throttle) (s : LineSink μ) :
    Handed none s { s with throttle } :=
  ⟨rfl, rfl, rfl, id, rfl, rfl, ⟨[], by simp⟩, by simp⟩

theorem handed_shut (s : LineSink μ) : Handed none s s.shut :=
  ⟨rfl, rfl, rfl, fun _ => rfl, rfl, rfl, ⟨[], by simp [shut]⟩, by simp [shut]⟩

theorem handed_countRefusal (now : Nat) (s : LineSink μ) : Handed none s (s.countRefusal now) := by
  unfold countRefusal
  cases hreport : (s.throttle.drop now).2 with
  | none => simpa [hreport] using handed_withThrottle (s.throttle.drop now).1 s
  | some count =>
      simpa [hreport] using (handed_withThrottle (s.throttle.drop now).1 s).after
        (handed_note (Notice.queueFull_ne_writeFailed count) _)

private theorem handed_reportRefusals (now : Nat) (s : LineSink μ) :
    Handed none s (s.reportRefusals now) := by
  unfold reportRefusals
  cases hreport : (s.throttle.flush now).2 with
  | none => simpa [hreport] using handed_withThrottle (s.throttle.flush now).1 s
  | some count =>
      simpa [hreport] using (handed_withThrottle (s.throttle.flush now).1 s).after
        (handed_note (Notice.dropped_ne_writeFailed count) _)

theorem handed_submit? {r : Record} {s s' : LineSink μ} (h : s.submit? r = some s') :
    Handed (some (.write (linePieces (s.layout r)))) s s' := by
  obtain ⟨worker, hworker, rfl⟩ := Option.map_eq_some_iff.mp h
  obtain ⟨-, rfl⟩ := Worker.trySubmit?_eq_some hworker
  exact ⟨rfl, rfl, rfl, id, rfl, rfl, ⟨[], by simp⟩, by simp [Job.ticket?]⟩

theorem handed_askFlush (now : Nat) (tick : Tick) (timeout : Span) (s : LineSink μ) :
    (s.askFlush now tick timeout).2 = none ∧ Handed none s (s.askFlush now tick timeout).1 ∨
      (s.askFlush now tick timeout).2 = some s.tickets ∧
        Handed (some (.flush s.tickets)) s (s.askFlush now tick timeout).1 := by
  have hreport := handed_reportRefusals now s
  have htickets : (s.reportRefusals now).tickets = s.tickets := by
    simpa using congrArg List.length hreport.tickets
  unfold askFlush
  cases tick.add? timeout with
  | none => exact .inl ⟨rfl, hreport⟩
  | some deadline =>
      refine .inr ⟨by simp [htickets], hreport.after ?_⟩
      simp only [htickets]
      exact ⟨rfl, rfl, rfl, id, rfl, rfl, ⟨[], by simp⟩,
        by simp [Job.ticket?, htickets, List.range_succ]⟩

theorem Handed.activity {job : Option Job} {s s' : LineSink μ} (h : Handed job s s') :
    s'.worker.activity = s.worker.activity := by
  rw [h.worker]
  cases job <;> rfl

private theorem Handed.jobs {job : Option Job} {s s' : LineSink μ} (h : Handed job s s') :
    s'.worker.jobs = s.worker.jobs ++ job.toList := by
  rw [h.worker]
  cases job with
  | none => simp
  | some job => exact Worker.jobs_submit job s.worker

theorem Handed.serving {job : Option Job} {s s' : LineSink μ} (h : Handed job s s')
    (hserving : s.worker.Serving) : s'.worker.Serving := by
  rw [h.worker]
  cases job with
  | none => exact hserving
  | some job => exact hserving.submit job

theorem Handed.row {job : Option Job} {s s' : LineSink μ} (h : Handed job s s')
    (history : Worker.History Job (Scene μ)) :
    history.row s'.worker = history.row s.worker ++ job.toList := by
  simp [Worker.History.row, h.jobs]

inductive Moved (now : Nat) (s : Shared μ) : Point → Point → Shared μ → Prop
  | reject (r : Record) (closed : s.sink.closed = true) :
      Moved now s .idle .idle (s.finish (.added r (.error .closed)))
  | clear (r : Record) (unclosed : s.sink.closed = false) : Moved now s .idle (.cleared r) s
  | submit (r : Record) (sink : LineSink μ) (room : s.sink.submit? r = some sink) :
      Moved now s (.cleared r) .idle ({ s with sink }.finish (.added r (.ok ())))
  | refuse (r : Record) (full : s.sink.submit? r = none) :
      Moved now s (.cleared r) .idle
        ({ s with sink := s.sink.countRefusal now }.finish (.added r (.error .queueFull)))
  | shut (wait : Wait) : Moved now s .idle (.shut wait) { s with sink := s.sink.shut }
  | ask (wait : Wait) :
      Moved now s .idle (s.askFlush now wait false).1 (s.askFlush now wait false).2
  | askLast (wait : Wait) :
      Moved now s (.shut wait) (s.askFlush now wait true).1 (s.askFlush now wait true).2
  | answer (ticket : Nat) (closes ok : Bool) (answered : s.sink.answer? ticket = some ok) :
      Moved now s (.waiting ticket closes) .idle (s.finish (.ofWait closes ok))
  | giveUp (ticket : Nat) (closes : Bool) :
      Moved now s (.waiting ticket closes) .idle (s.finish (.ofWait closes false))

theorem moved_of_callStep {now : Nat} {move : Move} {point point' : Point} {s s' : Shared μ}
    (h : callStep now move point s = some (point', s')) : Moved now s point point' s' := by
  cases point with
  | idle =>
      cases move with
      | add r =>
          cases hclosed : s.sink.closed with
          | true =>
              simp only [callStep, hclosed, if_true, Option.some.injEq, Prod.mk.injEq] at h
              obtain ⟨rfl, rfl⟩ := h
              exact .reject r hclosed
          | false =>
              simp only [callStep, hclosed, Bool.false_eq_true, if_false, Option.some.injEq,
                Prod.mk.injEq] at h
              obtain ⟨rfl, rfl⟩ := h
              exact .clear r hclosed
      | flush wait =>
          obtain ⟨rfl, rfl⟩ := Prod.mk.inj (Option.some.inj h)
          exact .ask wait
      | close wait =>
          obtain ⟨rfl, rfl⟩ := Prod.mk.inj (Option.some.inj h)
          exact .shut wait
      | resume => cases h
      | giveUp => cases h
  | cleared r =>
      cases move with
      | resume =>
          cases hsubmit : s.sink.submit? r with
          | some sink =>
              simp only [callStep, hsubmit, Option.some.injEq, Prod.mk.injEq] at h
              obtain ⟨rfl, rfl⟩ := h
              exact .submit r sink hsubmit
          | none =>
              simp only [callStep, hsubmit, Option.some.injEq, Prod.mk.injEq] at h
              obtain ⟨rfl, rfl⟩ := h
              exact .refuse r hsubmit
      | add r => cases h
      | flush wait => cases h
      | close wait => cases h
      | giveUp => cases h
  | shut wait =>
      cases move with
      | resume =>
          obtain ⟨rfl, rfl⟩ := Prod.mk.inj (Option.some.inj h)
          exact .askLast wait
      | add r => cases h
      | flush wait => cases h
      | close wait => cases h
      | giveUp => cases h
  | waiting ticket closes =>
      cases move with
      | resume =>
          obtain ⟨ok, hanswer, hnext⟩ := Option.map_eq_some_iff.mp h
          obtain ⟨rfl, rfl⟩ := Prod.mk.inj hnext
          exact .answer ticket closes ok hanswer
      | giveUp =>
          obtain ⟨rfl, rfl⟩ := Prod.mk.inj (Option.some.inj h)
          exact .giveUp ticket closes
      | add r => cases h
      | flush wait => cases h
      | close wait => cases h

theorem Moved.handed_flush {now ticket : Nat} {closes : Bool} {point : Point} {s s' : Shared μ}
    (h : Moved now s point (.waiting ticket closes) s') :
    Handed (some (.flush ticket)) s.sink s'.sink := by
  have hask (wait : Wait) (closes' : Bool)
      (hpoint : (s.askFlush now wait closes').1 = .waiting ticket closes) :
      Handed (some (.flush ticket)) s.sink (s.askFlush now wait closes').2.sink := by
    unfold Shared.askFlush at hpoint ⊢
    rcases handed_askFlush now wait.tick wait.timeout s.sink with ⟨hnone, -⟩ | ⟨hsome, handed⟩
    · simp [hnone] at hpoint
    · simp only [hsome, Point.waiting.injEq] at hpoint
      exact hpoint.1 ▸ handed
  generalize hpoint : Point.waiting ticket closes = point' at h
  cases h with
  | ask wait => exact hask wait false hpoint.symm
  | askLast wait => exact hask wait true hpoint.symm
  | _ => cases hpoint

theorem stepped_of_work? [Device μ] {s s' : LineSink μ} (h : s.work? = some s') :
    Worker.Stepped act s.worker s.scene s'.worker s'.scene ∧
      s' = { s with worker := s'.worker, scene := s'.scene } := by
  obtain ⟨next, hstep, rfl⟩ := Option.map_eq_some_iff.mp h
  exact ⟨Worker.stepped_of_step? hstep, rfl⟩

end LogShipping.LineSink
