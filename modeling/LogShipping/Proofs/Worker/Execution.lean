import LogShipping.Proofs.Lists
import LogShipping.Proofs.Worker.Turns

namespace LogShipping.Worker

variable {J σ : Type}

namespace Order

theorem act_left {act : J → σ → Progress J σ} {order rest : Order J} {floor floor' : Floor σ}
    (h : Order.act act order floor = .left rest floor') :
    rest.ticket? = order.ticket? ∧ floor'.signals = floor.signals := by
  cases order with
  | signal ticket => cases h
  | job job =>
      simp only [Order.act] at h
      split at h
      · cases h
      · cases h
        exact ⟨rfl, rfl⟩
      · cases h
      · cases h

theorem act_finished {act : J → σ → Progress J σ} {order : Order J} {floor floor' : Floor σ}
    (h : Order.act act order floor = .finished floor') :
    floor'.signals = floor.signals ++ order.ticket?.toList := by
  cases order with
  | signal ticket =>
      cases h
      rfl
  | job job =>
      simp only [Order.act] at h
      split at h
      · cases h
        exact (List.append_nil _).symm
      · cases h
      · cases h
      · cases h

theorem act_panicked {act : J → σ → Progress J σ} {order : Order J} {floor floor' : Floor σ}
    (h : Order.act act order floor = .panicked floor') : floor'.signals = floor.signals := by
  cases order with
  | signal ticket => cases h
  | job job =>
      simp only [Order.act] at h
      split at h
      · cases h
      · cases h
      · cases h
      · cases h
        rfl

end Order

/-- The orders have been stored, and nothing else that the worker sees has happened. -/
structure Fed (orders : List (Order J)) (s s' : Shared J σ) : Prop where
  admitted : s'.admitted = s.admitted ++ orders
  jobs : s'.worker.jobs = s.worker.jobs ++ orders
  activity : s'.worker.activity = s.worker.activity
  withdrawn : s'.withdrawn = s.withdrawn
  signals : s'.floor.signals = s.floor.signals

private theorem fed_nil {s s' : Shared J σ} (hadmitted : s'.admitted = s.admitted)
    (hjobs : s'.worker.jobs = s.worker.jobs) (hactivity : s'.worker.activity = s.worker.activity)
    (hwithdrawn : s'.withdrawn = s.withdrawn) (hsignals : s'.floor.signals = s.floor.signals) :
    Fed [] s s' :=
  ⟨by simpa using hadmitted, by simpa using hjobs, hactivity, hwithdrawn, hsignals⟩

private theorem jobs_store (task : Task J) (w : Worker J) :
    ({ w with backlog := w.backlog.store ⟨task, true⟩ } : Worker J).jobs =
      w.jobs ++ task.job?.toList := by
  cases task <;> simp [jobs, Task.job?]

theorem CallStep.fed {s s' : Shared J σ} {point point' : Point J} (h : CallStep s point point' s') :
    ∃ orders, Fed orders s s' := by
  cases h with
  | count order tickets fresh => exact ⟨[], fed_nil rfl rfl rfl rfl rfl⟩
  | reject job => exact ⟨[], fed_nil rfl rfl rfl rfl rfl⟩
  | submit job =>
      have hjobs := jobs_store (.run (Order.job job)) s.worker
      exact ⟨_, rfl, hjobs, rfl, rfl, rfl⟩
  | signal ticket =>
      have hjobs := jobs_store (.run (Order.signal ticket)) s.worker
      exact ⟨_, rfl, hjobs, rfl, rfl, rfl⟩
  | finish ticket reached signalled => exact ⟨[], fed_nil rfl rfl rfl rfl rfl⟩

namespace Service

/-- Everything stored is finished, at hand, or still to come, in this order. -/
structure Ordered (s : Service J σ) : Prop where
  row : s.shared.admitted = s.started ++ s.upcoming
  rest : s.history.begun = none → s.worker.activity = .idle ∨ s.worker.activity = .stopped
  hand : ∀ order before, s.history.begun = some (order, before) →
    s.worker.activity = .crashed ∨
      ∃ now, s.worker.activity = .busy now ∧ now.ticket? = order.ticket?
  waits : ∀ entry, s.shared.withdrawn = some entry → s.worker.activity = .idle
  signals : s.shared.floor.signals = s.finished.filterMap Order.ticket?

theorem ordered_start (scene : σ) (callers : Nat) :
    (start scene callers : Service J σ).Ordered where
  row := rfl
  rest _ := .inl rfl
  hand := by
    intro order before h
    cases h
  waits := by
    intro entry h
    cases h
  signals := rfl

private theorem Ordered.fed {s s' : Service J σ} (h : s.Ordered) {orders : List (Order J)}
    (fed : Fed orders s.shared s'.shared) (hhistory : s'.history = s.history) : s'.Ordered := by
  have hactivity : s'.worker.activity = s.worker.activity := fed.activity
  have hfinished : s'.finished = s.finished := by rw [finished, hhistory, finished]
  have hstarted : s'.started = s.started := by rw [started, hfinished, hhistory, started]
  have hupcoming : s'.upcoming = s.upcoming ++ orders := by
    have hjobs : s'.worker.jobs = s.worker.jobs ++ orders := fed.jobs
    rw [upcoming, fed.withdrawn, hjobs, upcoming, List.append_assoc]
  refine ⟨?_, ?_, ?_, ?_, ?_⟩
  · rw [fed.admitted, h.row, hstarted, hupcoming, List.append_assoc]
  · rw [hhistory, hactivity]
    exact h.rest
  · rw [hhistory, hactivity]
    exact h.hand
  · rw [fed.withdrawn, hactivity]
    exact h.waits
  · rw [fed.signals, hfinished]
    exact h.signals

private theorem Ordered.begun_of_busy {s : Service J σ} (h : s.Ordered) {now : Order J}
    (hbusy : s.worker.activity = .busy now) :
    ∃ order before, s.history.begun = some (order, before) ∧ now.ticket? = order.ticket? := by
  cases hbegun : s.history.begun with
  | none => rcases h.rest hbegun with hidle | hstopped <;> simp_all
  | some entry =>
      obtain ⟨order, before⟩ := entry
      rcases h.hand order before hbegun with hcrashed | ⟨now', hbusy', hticket⟩
      · cases hcrashed.symm.trans hbusy
      · obtain rfl : now' = now := by simpa using hbusy'.symm.trans hbusy
        exact ⟨order, before, rfl, hticket⟩

theorem Ordered.begun_of_rest {s : Service J σ} (h : s.Ordered)
    (hrest : s.worker.activity = .idle ∨ s.worker.activity = .stopped) :
    s.history.begun = none := by
  cases hbegun : s.history.begun with
  | none => rfl
  | some entry =>
      obtain ⟨order, before⟩ := entry
      rcases h.hand order before hbegun with hcrashed | ⟨now, hbusy, -⟩
      · simp [hcrashed] at hrest
      · simp [hbusy] at hrest

private theorem Ordered.work {act : J → σ → Progress J σ} {s s' : Service J σ} (h : s.Ordered)
    {shared' : Shared J σ} (hshared : s'.shared = shared')
    (hhistory : s'.history = s.history.next shared'.worker shared'.floor)
    (worked : Worked act s.shared shared') : s'.Ordered := by
  have hrow := h.row
  have hsignals := h.signals
  cases worked with
  | withdraw entry rest free idle entries size =>
      have hbegun := h.begun_of_rest (.inl idle)
      simp only [History.next, hbegun] at hhistory
      have hjobs : s.shared.worker.jobs =
          entry.item.job?.toList ++ (⟨rest, .idle⟩ : Worker (Order J)).jobs := by
        cases hjob : entry.item.job? <;> simp [jobs, Backlog.items, entries, hjob]
      exact {
        row := by
          simpa [started, finished, upcoming, worker, hshared, hhistory, free, hjobs] using hrow
        rest := by simp [worker, hshared]
        hand := by simp [hhistory, hbegun]
        waits := by simp [worker, hshared]
        signals := by simpa [finished, hshared, hhistory] using hsignals }
  | begin entry held =>
      have hbegun := h.begun_of_rest (.inl (h.waits entry held))
      have hjobs (activity : Activity (Order J)) :
          (⟨s.shared.worker.backlog.discount entry, activity⟩ : Worker (Order J)).jobs =
            s.shared.worker.jobs := by
        simp [jobs]
      cases htask : entry.item with
      | run order =>
          simp only [History.next, hbegun, htask, Task.activity] at hhistory
          exact {
            row := by
              simpa [started, finished, upcoming, worker, hshared, hhistory, held, hjobs, htask,
                Task.job?, hbegun] using hrow
            rest := by simp [hhistory]
            hand := by simp [worker, hshared, hhistory, htask, Task.activity]
            waits := by simp [hshared]
            signals := by simpa [finished, hshared, hhistory] using hsignals }
      | stop =>
          simp only [History.next, hbegun, htask, Task.activity] at hhistory
          exact {
            row := by
              simpa [started, finished, upcoming, worker, hshared, hhistory, held, hjobs, htask,
                Task.job?, hbegun] using hrow
            rest := by simp [worker, hshared, htask, Task.activity]
            hand := by simp [hhistory, hbegun]
            waits := by simp [hshared]
            signals := by simpa [finished, hshared, hhistory] using hsignals }
  | goOn now rest floor free busy left =>
      obtain ⟨order, before, hbegun, hticket⟩ := h.begun_of_busy busy
      obtain ⟨hleft, hsame⟩ := Order.act_left left
      simp only [History.next, hbegun] at hhistory
      exact {
        row := by
          simpa [started, finished, upcoming, worker, hshared, hhistory, free, jobs] using hrow
        rest := by simp [hhistory, hbegun]
        hand := by simp [worker, hshared, hhistory, hbegun, hleft, hticket]
        waits := by simp [hshared, free]
        signals := by simpa [finished, hshared, hhistory, hsame] using hsignals }
  | finish now floor free busy finished =>
      obtain ⟨order, before, hbegun, hticket⟩ := h.begun_of_busy busy
      have hgiven := Order.act_finished finished
      simp only [History.next, hbegun] at hhistory
      exact {
        row := by
          simpa [started, Service.finished, upcoming, worker, hshared, hhistory, hbegun, free, jobs]
            using hrow
        rest := by simp [worker, hshared]
        hand := by simp [hhistory]
        waits := by simp [hshared, free]
        signals := by
          cases htold : order.ticket? with
          | none =>
              simpa [Service.finished, hshared, hhistory, hgiven, hticket, htold] using hsignals
          | some ticket =>
              simpa [Service.finished, hshared, hhistory, hgiven, hticket, htold] using hsignals }
  | crash now floor free busy panicked =>
      obtain ⟨order, before, hbegun, -⟩ := h.begun_of_busy busy
      have hsame := Order.act_panicked panicked
      simp only [History.next, hbegun] at hhistory
      exact {
        row := by
          simpa [started, finished, upcoming, worker, hshared, hhistory, free, jobs] using hrow
        rest := by simp [hhistory, hbegun]
        hand := by simp [worker, hshared]
        waits := by simp [hshared, free]
        signals := by simpa [finished, hshared, hhistory, hsame] using hsignals }

theorem Ordered.step {s : Service J σ} (h : s.Ordered) (act : J → σ → Progress J σ)
    (event : Event J σ) : (s.step act event).Ordered := by
  generalize hnext : s.step act event = s'
  cases hnext ▸ turned_step act event s with
  | rest => exact h
  | call i point point' shared' held standing moved =>
      obtain ⟨orders, hfed⟩ := moved.fed
      exact h.fed hfed rfl
  | work shared' worked => exact h.work rfl rfl worked
  | scene change => exact h.fed (fed_nil rfl rfl rfl rfl rfl) rfl
  | leave held free => exact h.fed (fed_nil rfl rfl rfl rfl rfl) rfl
  | close leaving =>
      have hjobs := (jobs_store .stop s.worker).trans (List.append_nil _)
      exact h.fed (fed_nil rfl hjobs rfl rfl rfl) rfl
  | stop joining stopped => exact h.fed (fed_nil rfl rfl rfl rfl rfl) rfl
  | crash joining crashed => exact h.fed (fed_nil rfl rfl rfl rfl rfl) rfl

theorem Ordered.no_work {act : J → σ → Progress J σ} {s : Service J σ} (h : s.Ordered)
    (hended : s.worker.activity = .stopped ∨ s.worker.activity = .crashed) {shared' : Shared J σ}
    (worked : Worked act s.shared shared') : False := by
  have hneither {activity : Activity (Order J)} (hactivity : s.shared.worker.activity = activity)
      (hstopped : activity ≠ .stopped) (hcrashed : activity ≠ .crashed) : False := by
    rcases hended with hended | hended
    · exact hstopped (hactivity.symm.trans hended)
    · exact hcrashed (hactivity.symm.trans hended)
  cases worked with
  | withdraw entry rest free idle entries size => exact hneither idle (by simp) (by simp)
  | begin entry held => exact hneither (h.waits entry held) (by simp) (by simp)
  | goOn now rest floor free busy left => exact hneither busy (by simp) (by simp)
  | finish now floor free busy finished => exact hneither busy (by simp) (by simp)
  | crash now floor free busy panicked => exact hneither busy (by simp) (by simp)

theorem ordered_run {s : Service J σ} (h : s.Ordered) (act : J → σ → Progress J σ)
    (events : List (Event J σ)) : (s.run act events).Ordered :=
  run_induction (fun _ event hordered => hordered.step act event) events h

end Service

/-- Which jobs panic does not depend on what they work on. -/
structure Fated (act : J → σ → Progress J σ) (doomed : J → Bool) : Prop where
  finished : ∀ {job scene scene'}, act job scene = .finished scene' → doomed job = false
  left : ∀ {job scene rest scene'}, act job scene = .left rest scene' → doomed rest = doomed job
  panicked : ∀ {job scene scene'}, act job scene = .panicked scene' → doomed job = true

def Order.isDoomed (doomed : J → Bool) : Order J → Bool
  | job j => doomed j
  | signal _ => false

private theorem Fated.order {act : J → σ → Progress J σ} {doomed : J → Bool}
    (h : Fated act doomed) : Fated (Order.act act) (Order.isDoomed doomed) where
  finished := by
    intro order floor floor' hact
    cases order with
    | signal ticket => rfl
    | job job =>
        simp only [Order.act] at hact
        split at hact
        · exact h.finished ‹_›
        · cases hact
        · cases hact
        · cases hact
  left := by
    intro order floor rest floor' hact
    cases order with
    | signal ticket => cases hact
    | job job =>
        simp only [Order.act] at hact
        split at hact
        · cases hact
        · cases hact
          exact h.left ‹_›
        · cases hact
        · cases hact
  panicked := by
    intro order floor floor' hact
    cases order with
    | signal ticket => cases hact
    | job job =>
        simp only [Order.act] at hact
        split at hact
        · cases hact
        · cases hact
        · cases hact
        · exact h.panicked ‹_›

namespace Service

structure Spared (doomed : Order J → Bool) (s : Service J σ) : Prop where
  done : ∀ order ∈ s.finished, doomed order = false
  hand : ∀ order before, s.history.begun = some (order, before) →
    (∀ now, s.worker.activity = .busy now → doomed now = doomed order) ∧
      (s.worker.activity = .crashed → doomed order = true)

private theorem Spared.quiet {doomed : Order J → Bool} {s s' : Service J σ} (h : s.Spared doomed)
    (hhistory : s'.history = s.history) (hactivity : s'.worker.activity = s.worker.activity) :
    s'.Spared doomed := by
  refine ⟨?_, ?_⟩
  · rw [finished, hhistory]
    exact h.done
  · rw [hhistory, hactivity]
    exact h.hand

private theorem Spared.work {act : J → σ → Progress J σ} {doomed : Order J → Bool}
    {s s' : Service J σ} (h : s.Spared doomed) (hordered : s.Ordered)
    (hfated : Fated (Order.act act) doomed) {shared' : Shared J σ} (hshared : s'.shared = shared')
    (hhistory : s'.history = s.history.next shared'.worker shared'.floor)
    (worked : Worked act s.shared shared') : s'.Spared doomed := by
  cases worked with
  | withdraw entry rest free idle entries size =>
      have hbegun := hordered.begun_of_rest (.inl idle)
      simp only [History.next, hbegun] at hhistory
      refine ⟨?_, ?_⟩
      · simpa [finished, hhistory] using h.done
      · simp [hhistory, hbegun]
  | begin entry held =>
      have hbegun := hordered.begun_of_rest (.inl (hordered.waits entry held))
      cases htask : entry.item with
      | run order =>
          simp only [History.next, hbegun, htask, Task.activity] at hhistory
          refine ⟨?_, ?_⟩
          · simpa [finished, hhistory] using h.done
          · simp [worker, hshared, hhistory, htask, Task.activity]
      | stop =>
          simp only [History.next, hbegun, htask, Task.activity] at hhistory
          refine ⟨?_, ?_⟩
          · simpa [finished, hhistory] using h.done
          · simp [hhistory, hbegun]
  | goOn now rest floor free busy left =>
      obtain ⟨order, before, hbegun, -⟩ := hordered.begun_of_busy busy
      have hsame := (h.hand order before hbegun).1 now busy
      simp only [History.next, hbegun] at hhistory
      refine ⟨?_, ?_⟩
      · simpa [finished, hhistory] using h.done
      · simp [worker, hshared, hhistory, hbegun, hfated.left left, hsame]
  | finish now floor free busy finished =>
      obtain ⟨order, before, hbegun, -⟩ := hordered.begun_of_busy busy
      have hsame := (h.hand order before hbegun).1 now busy
      have hspared : doomed order = false := hsame.symm.trans (hfated.finished finished)
      have hdone := h.done
      simp only [History.next, hbegun] at hhistory
      refine ⟨?_, ?_⟩
      · intro order' hmem
        simp only [Service.finished, hhistory, List.map_append, List.map_singleton,
          List.mem_append, List.mem_singleton] at hmem
        rcases hmem with hold | rfl
        · exact hdone order' hold
        · exact hspared
      · simp [hhistory]
  | crash now floor free busy panicked =>
      obtain ⟨order, before, hbegun, -⟩ := hordered.begun_of_busy busy
      have hsame := (h.hand order before hbegun).1 now busy
      have hdoomed : doomed order = true := hsame.symm.trans (hfated.panicked panicked)
      simp only [History.next, hbegun] at hhistory
      refine ⟨?_, ?_⟩
      · simpa [finished, hhistory] using h.done
      · simp [worker, hshared, hhistory, hbegun, hdoomed]

theorem spared_start (doomed : Order J → Bool) (scene : σ) (callers : Nat) :
    (start scene callers : Service J σ).Spared doomed where
  done := by
    intro order hmem
    cases hmem
  hand := by
    intro order before h
    cases h

theorem Spared.step {act : J → σ → Progress J σ} {doomed : Order J → Bool} {s : Service J σ}
    (h : s.Spared doomed) (hordered : s.Ordered) (hfated : Fated (Order.act act) doomed)
    (event : Event J σ) : (s.step act event).Spared doomed := by
  generalize hnext : s.step act event = s'
  cases hnext ▸ turned_step act event s with
  | call i point point' shared' held standing moved =>
      obtain ⟨orders, hfed⟩ := moved.fed
      exact h.quiet rfl hfed.activity
  | work shared' worked => exact h.work hordered hfated rfl rfl worked
  | _ => exact h.quiet rfl rfl

theorem spared_run {act : J → σ → Progress J σ} {doomed : J → Bool} (hfated : Fated act doomed)
    (scene : σ) (callers : Nat) (events : List (Event J σ)) :
    ((start scene callers).run act events).Spared (Order.isDoomed doomed) := by
  have hboth : ((start scene callers).run act events).Ordered ∧
      ((start scene callers).run act events).Spared (Order.isDoomed doomed) := by
    refine run_induction (P := fun s => s.Ordered ∧ s.Spared (Order.isDoomed doomed)) ?_ events
      ⟨ordered_start scene callers, spared_start _ scene callers⟩
    intro s event h
    exact ⟨h.1.step act event, h.2.step h.1 hfated.order event⟩
  exact hboth.2

end Service

end LogShipping.Worker
