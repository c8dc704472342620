import LogShipping.Proofs.Worker.Drop
import LogShipping.Worker.Drill
import Mathlib.Data.List.TakeWhile

namespace LogShipping.Worker

variable {J σ : Type}

/-- A place in the counter for an order that is not stored. -/
def Point.places : Point J → Nat
  | counted _ => 1
  | _ => 0

def Tenure.places : Tenure → Nat
  | leaving => 1
  | _ => 0

def Point.ticket? : Point J → Option Nat
  | counted order => order.ticket?
  | _ => none

def Order.job? : Order J → Option J
  | job j => some j
  | signal _ => none

def Outcome.submitted? : Outcome J → Option J
  | submitted job => some job
  | _ => none

namespace Service

/-- The counter is made up of what is stored, what the worker has in its hands, and the places for
what is still to be stored. -/
structure Counted (s : Service J σ) : Prop where
  entries : ∀ entry ∈ s.shared.worker.backlog.entries, entry.counted = true
  hands : ∀ entry, s.shared.withdrawn = some entry → entry.counted = true
  size : s.shared.worker.backlog.size = s.shared.worker.backlog.entries.length +
    s.shared.withdrawn.toList.length + s.threads.total Point.places + s.tenure.places

theorem counted_start (scene : σ) (callers : Nat) :
    (start scene callers : Service J σ).Counted where
  entries := by
    intro entry hmem
    cases hmem
  hands := by
    intro entry h
    cases h
  size := by
    have hplaces : (start scene callers : Service J σ).threads.total Point.places = 0 :=
      (Threads.total_start Point.places _ _ callers).trans (Nat.mul_zero callers)
    rw [hplaces]
    rfl

private theorem counted_store {q : Backlog (Task (Order J))}
    (h : ∀ entry ∈ q.entries, entry.counted = true) (task : Task (Order J)) : ∀ entry ∈
    (q.store ⟨task, true⟩).entries, entry.counted = true := by
  intro entry hmem
  rcases List.mem_append.mp hmem with hold | hnew
  · exact h entry hold
  · rw [List.mem_singleton.mp hnew]

private theorem Counted.called {s : Service J σ} (h : s.Counted) {i : Nat} {point point' : Point J}
    {shared' : Shared J σ} (standing : s.threads.points[i]? = some point)
    (moved : CallStep s.shared point point' shared') :
    ({ s with threads := ⟨shared', s.threads.points.set i point'⟩ } : Service J σ).Counted := by
  have hset := sum_map_set Point.places standing point'
  have hsize := h.size
  simp only [Threads.total] at hsize
  cases moved with
  | count order tickets fresh =>
      refine ⟨h.entries, h.hands, ?_⟩
      simp only [shared, Shared.onBacklog, Backlog.count, Threads.total, Point.places]
        at hset hsize ⊢
      omega
  | reject job =>
      refine ⟨h.entries, h.hands, ?_⟩
      simp only [shared, Shared.finish, Threads.total, Point.places] at hset hsize ⊢
      omega
  | submit job =>
      refine ⟨counted_store h.entries _, h.hands, ?_⟩
      simp only [shared, Shared.finish, Shared.store, Shared.onBacklog, Backlog.store,
        Threads.total, Point.places, List.length_append, List.length_singleton] at hset hsize ⊢
      omega
  | signal ticket =>
      refine ⟨counted_store h.entries _, h.hands, ?_⟩
      simp only [shared, Shared.store, Shared.onBacklog, Backlog.store, Threads.total,
        Point.places, List.length_append, List.length_singleton] at hset hsize ⊢
      omega
  | finish ticket reached signalled =>
      refine ⟨h.entries, h.hands, ?_⟩
      simp only [shared, Shared.finish, Threads.total, Point.places] at hset hsize ⊢
      omega

private theorem Counted.work {act : J → σ → Progress J σ} {s s' : Service J σ} (h : s.Counted)
    {shared' : Shared J σ} (hshared : s'.shared = shared')
    (hpoints : s'.threads.points = s.threads.points) (htenure : s'.tenure = s.tenure)
    (worked : Worked act s.shared shared') : s'.Counted := by
  have hsize := h.size
  have htotal : s'.threads.total Point.places = s.threads.total Point.places := by
    rw [Threads.total, hpoints, Threads.total]
  have hentries := h.entries
  cases worked with
  | withdraw entry rest free idle entries size =>
      rw [entries] at hentries
      refine ⟨?_, ?_, ?_⟩
      · rw [hshared]
        exact fun other hmem => hentries other (List.mem_cons_of_mem _ hmem)
      · rw [hshared]
        rintro other ⟨⟩
        exact hentries entry List.mem_cons_self
      · rw [htotal, htenure, hshared]
        simp only [entries, free, List.length_cons, Option.toList_none, Option.toList_some,
          List.length_nil] at hsize ⊢
        omega
  | begin entry held =>
      have hcounted := h.hands entry held
      refine ⟨?_, ?_, ?_⟩
      · rw [hshared]
        simpa [Backlog.discount, hcounted] using hentries
      · rw [hshared]
        rintro other ⟨⟩
      · rw [htotal, htenure, hshared]
        simp only [Backlog.discount, hcounted, if_true, held, Option.toList_some,
          Option.toList_none, List.length_singleton, List.length_nil] at hsize ⊢
        omega
  | goOn order rest floor free busy left =>
      exact ⟨hshared ▸ hentries, hshared ▸ h.hands, by rw [htotal, htenure, hshared]; exact hsize⟩
  | finish order floor free busy finished =>
      exact ⟨hshared ▸ hentries, hshared ▸ h.hands, by rw [htotal, htenure, hshared]; exact hsize⟩
  | crash order floor free busy panicked =>
      exact ⟨hshared ▸ hentries, hshared ▸ h.hands, by rw [htotal, htenure, hshared]; exact hsize⟩

theorem Counted.step {s : Service J σ} (h : s.Counted) (act : J → σ → Progress J σ)
    (event : Event J σ) : (s.step act event).Counted := by
  have hsize := h.size
  generalize hnext : s.step act event = s'
  cases hnext ▸ turned_step act event s with
  | rest => exact h
  | call i point point' shared' held standing moved => exact h.called standing moved
  | work shared' worked => exact h.work rfl rfl rfl worked
  | scene change => exact ⟨h.entries, h.hands, hsize⟩
  | leave held free =>
      refine ⟨h.entries, h.hands, ?_⟩
      simp only [held, Tenure.places, shared, onShared, Shared.onBacklog, Backlog.count,
        Threads.total] at hsize ⊢
      omega
  | close leaving =>
      refine ⟨counted_store h.entries _, h.hands, ?_⟩
      simp only [leaving, Tenure.places, shared, onShared, Shared.onBacklog, Backlog.store,
        Threads.total, List.length_append, List.length_singleton] at hsize ⊢
      omega
  | stop joining stopped =>
      rw [joining] at hsize
      exact ⟨h.entries, h.hands, hsize⟩
  | crash joining crashed =>
      rw [joining] at hsize
      exact ⟨h.entries, h.hands, hsize⟩

theorem counted_run {s : Service J σ} (h : s.Counted) (act : J → σ → Progress J σ)
    (events : List (Event J σ)) : (s.run act events).Counted :=
  run_induction (fun _ event hcounted => hcounted.step act event) events h

/-- Between the steps of all calls the counter tells how much has not been begun. -/
theorem Counted.waiting_eq {s : Service J σ} (h : s.Counted) (hordered : s.Ordered)
    (hlane : s.InLane) (hquiet : s.IsQuiet) :
    s.worker.waiting + s.started.length = s.shared.admitted.length := by
  have hplaces : s.threads.total Point.places = 0 := by
    refine List.sum_eq_zero (List.forall_mem_map.mpr ?_)
    intro point hmem
    cases point with
    | counted order => exact absurd hmem (hquiet.calls order)
    | idle => rfl
    | waiting ticket => rfl
  have hsize : s.worker.waiting = s.worker.backlog.items.length := by
    have hsize := h.size
    rw [hquiet.worker, hquiet.owner, hplaces] at hsize
    simpa [waiting, worker, Backlog.items, Tenure.places] using hsize
  have hjobs : s.worker.backlog.items.length = s.worker.jobs.length := by
    have hopen : Lane s.worker s.shared.withdrawn false := by
      simpa [InLane, hquiet.owner, Tenure.isClosed] using hlane
    cases hopen with
    | serving orders awake held items => simp [jobs, items, Task.job?, Function.comp_def]
  have hrow := congrArg List.length hordered.row
  rw [hsize, hjobs, hrow, upcoming, hquiet.worker]
  simp [Nat.add_comm]

end Service

/-- Every ticket stands for one barrier. Its caller waits behind the signal, and passes when the
signal has been given. -/
structure Ledger (s : Shared J σ) (points : List (Point J)) : Prop where
  jobs : s.outcomes.filterMap Outcome.submitted? = s.admitted.filterMap Order.job?
  tickets : (s.admitted.filterMap Order.ticket? ++ points.filterMap Point.ticket?).Perm
    (List.range s.tickets)
  waited : ∀ ticket, .waiting ticket ∈ points → .signal ticket ∈ s.admitted
  passed : ∀ ticket reached, .passed ticket reached ∈ s.outcomes →
    .signal ticket ∈ s.admitted ∧ (reached = true → ticket ∈ s.floor.signals)

private theorem Ledger.called {s s' : Shared J σ} {points : List (Point J)} (h : Ledger s points)
    {i : Nat} {point point' : Point J} (standing : points[i]? = some point)
    (moved : CallStep s point point' s') : Ledger s' (points.set i point') := by
  have hset := filterMap_set_perm Point.ticket? standing point'
  have hwaited (ticket : Nat) (hmem : .waiting ticket ∈ points.set i point') :
      .signal ticket ∈ s.admitted ∨ point' = .waiting ticket := by
    rcases List.mem_or_eq_of_mem_set hmem with hold | hnew
    · exact .inl (h.waited ticket hold)
    · exact .inr hnew.symm
  cases moved with
  | count order tickets fresh =>
      have hcounted : ((points.set i (.counted order)).filterMap Point.ticket?).Perm
          (points.filterMap Point.ticket? ++ order.ticket?.toList) :=
        hset.trans List.perm_append_comm
      have hmore := h.tickets.append_right order.ticket?.toList
      rw [← fresh, List.append_assoc] at hmore
      exact ⟨h.jobs, (hcounted.append_left _).trans hmore,
        fun ticket hmem => (hwaited ticket hmem).resolve_right (by simp), h.passed⟩
  | reject job =>
      refine ⟨?_, (hset.append_left _).trans h.tickets,
        fun ticket hmem => (hwaited ticket hmem).resolve_right (by simp), ?_⟩
      · simpa [Shared.finish, Outcome.submitted?, List.filterMap_cons] using h.jobs
      · intro ticket reached hmem
        exact h.passed ticket reached (by simpa [Shared.finish] using hmem)
  | submit job =>
      refine ⟨?_, ?_, ?_, ?_⟩
      · simpa [Shared.finish, Shared.store, Shared.onBacklog, Outcome.submitted?, Order.job?] using
          h.jobs
      · have hadmitted : (s.admitted ++ [Order.job job]).filterMap Order.ticket? =
            s.admitted.filterMap Order.ticket? := by
          simp [Order.ticket?]
        have hperm := (hset.append_left _).trans h.tickets
        rwa [← hadmitted] at hperm
      · intro ticket hmem
        exact List.mem_append_left _ ((hwaited ticket hmem).resolve_right (by simp))
      · intro ticket reached hmem
        have hold : .passed ticket reached ∈ s.outcomes := by
          simpa [Shared.finish, Shared.store, Shared.onBacklog] using hmem
        exact ⟨List.mem_append_left _ (h.passed ticket reached hold).1,
          (h.passed ticket reached hold).2⟩
  | signal ticket =>
      refine ⟨?_, ?_, ?_, ?_⟩
      · simpa [Shared.store, Shared.onBacklog, Order.job?, List.filterMap_cons] using h.jobs
      · have hadmitted : (s.admitted ++ [Order.signal ticket]).filterMap Order.ticket? =
            s.admitted.filterMap Order.ticket? ++
              (Point.counted (Order.signal ticket : Order J)).ticket?.toList := by
          simp [Order.ticket?, Point.ticket?]
        have hperm := (hset.append_left _).trans h.tickets
        rw [← List.append_assoc] at hperm
        rwa [← hadmitted] at hperm
      · intro other hmem
        rcases hwaited other hmem with hold | hnew
        · exact List.mem_append_left _ hold
        · cases hnew
          exact List.mem_append_right _ (List.mem_singleton.mpr rfl)
      · intro other reached hmem
        exact ⟨List.mem_append_left _ (h.passed other reached hmem).1,
          (h.passed other reached hmem).2⟩
  | finish ticket reached signalled =>
      refine ⟨?_, (hset.append_left _).trans h.tickets,
        fun other hmem => (hwaited other hmem).resolve_right (by simp), ?_⟩
      · simpa [Shared.finish, Outcome.submitted?, List.filterMap_cons] using h.jobs
      · intro other reached' hmem
        rcases List.mem_append.mp hmem with hold | hnew
        · exact h.passed other reached' hold
        · cases List.mem_singleton.mp hnew
          exact ⟨h.waited ticket (List.mem_of_getElem? standing), signalled⟩

private theorem Worked.signals {act : J → σ → Progress J σ} {s s' : Shared J σ}
    (h : Worked act s s') : ∃ given, s'.floor.signals = s.floor.signals ++ given := by
  cases h with
  | withdraw entry rest free idle entries size => exact ⟨[], (List.append_nil _).symm⟩
  | begin entry held => exact ⟨[], (List.append_nil _).symm⟩
  | goOn order rest floor free busy left =>
      exact ⟨[], by simpa using (Order.act_left left).2⟩
  | finish order floor free busy finished => exact ⟨_, Order.act_finished finished⟩
  | crash order floor free busy panicked =>
      exact ⟨[], by simpa using Order.act_panicked panicked⟩

private theorem Ledger.work {act : J → σ → Progress J σ} {s s' : Shared J σ}
    {points : List (Point J)} (h : Ledger s points) (worked : Worked act s s') :
    Ledger s' points := by
  obtain ⟨given, hgiven⟩ := worked.signals
  have hsame : s'.admitted = s.admitted ∧ s'.tickets = s.tickets ∧ s'.outcomes = s.outcomes := by
    cases worked <;> exact ⟨rfl, rfl, rfl⟩
  obtain ⟨hadmitted, htickets, houtcomes⟩ := hsame
  refine ⟨?_, ?_, ?_, ?_⟩
  · rw [hadmitted, houtcomes]
    exact h.jobs
  · rw [hadmitted, htickets]
    exact h.tickets
  · rw [hadmitted]
    exact h.waited
  · rw [hadmitted, houtcomes, hgiven]
    intro ticket reached hmem
    obtain ⟨hsignal, hreached⟩ := h.passed ticket reached hmem
    exact ⟨hsignal, fun htrue => List.mem_append_left _ (hreached htrue)⟩

namespace Service

theorem ledger_run (act : J → σ → Progress J σ) (scene : σ) (callers : Nat)
    (events : List (Event J σ)) :
    let s := (start scene callers).run act events
    Ledger s.shared s.threads.points := by
  refine run_induction (P := fun s : Service J σ => Ledger s.shared s.threads.points) ?_ events ?_
  · intro s event h
    generalize hnext : s.step act event = s'
    cases hnext ▸ turned_step act event s with
    | call i point point' shared' held standing moved => exact h.called standing moved
    | work shared' worked => exact h.work worked
    | _ => exact ⟨h.jobs, h.tickets, h.waited, h.passed⟩
  · refine ⟨rfl, ?_, ?_, ?_⟩
    · have hpoints : (start scene callers : Service J σ).threads.points.filterMap Point.ticket? =
          [] := by
        simp [start, Threads.start, Point.ticket?]
      rw [hpoints]
      exact List.Perm.refl _
    · intro ticket hmem
      cases (List.mem_replicate.mp hmem).2
    · intro ticket reached hmem
      cases hmem

private theorem Ordered.finished_of_passed {s : Service J σ} (h : s.Ordered)
    (hledger : Ledger s.shared s.threads.points) {ticket : Nat}
    (hpassed : .passed ticket true ∈ s.outcomes) {ahead behind : List (Order J)}
    (hsplit : s.shared.admitted = ahead ++ .signal ticket :: behind) :
    ahead ++ [.signal ticket] <+: s.finished := by
  have hsignal : .signal ticket ∈ s.finished := by
    have hgiven := (hledger.passed ticket true hpassed).2 rfl
    rw [h.signals] at hgiven
    obtain ⟨order, hmem, hticket⟩ := List.mem_filterMap.mp hgiven
    cases order with
    | job job => cases hticket
    | signal other =>
        cases hticket
        exact hmem
  obtain ⟨before, after, hfinished⟩ := List.append_of_mem hsignal
  have hnodup : (s.shared.admitted.filterMap Order.ticket?).Nodup :=
    ((hledger.tickets.nodup_iff.mpr List.nodup_range).sublist (List.sublist_append_left _ _))
  have hrow : s.shared.admitted = before ++ .signal ticket ::
      (after ++ (s.history.begun.map Prod.fst).toList ++ s.upcoming) := by
    rw [h.row, started, hfinished]
    simp
  have hmark : Order.ticket? (.signal ticket : Order J) = some ticket := rfl
  obtain rfl : ahead = before := split_unique hmark (hsplit ▸ hnodup) (hsplit.symm.trans hrow)
  rw [hfinished]
  exact ⟨after, by simp⟩

/-- Where the panicking jobs are known beforehand, it is known what is begun. -/
theorem Ordered.started_of_ended {s : Service J σ} (h : s.Ordered) (hlane : s.InLane)
    {doomed : Order J → Bool} (hspared : s.Spared doomed) {panicked : Bool}
    (hactivity : s.worker.activity = if panicked then .crashed else .stopped) :
    s.shared.admitted.any doomed = panicked ∧
      s.started = s.shared.admitted.takeWhile (fun order => !doomed order) ++
        (s.shared.admitted.find? doomed).toList := by
  have hspares : ∀ order ∈ s.finished, (!doomed order) = true := by
    intro order hmem
    rw [hspared.done order hmem]
    rfl
  have hnone : s.finished.find? doomed = none := by
    rw [List.find?_eq_none]
    intro order hmem
    simp [hspared.done order hmem]
  cases panicked with
  | false =>
      obtain ⟨hfinished, hstarted⟩ := h.finished_of_stopped hlane hactivity
      rw [hstarted, ← hfinished, hnone, List.takeWhile_eq_self_iff.mpr hspares]
      refine ⟨?_, (List.append_nil _).symm⟩
      rw [List.any_eq_false]
      intro order hmem
      simp [hspared.done order hmem]
  | true =>
      obtain ⟨order, before, hbegun, hstarted⟩ := h.started_of_crashed hactivity
      have hdoomed := (hspared.hand order before hbegun).2 hactivity
      have hrow : s.shared.admitted = s.finished ++ order :: s.upcoming := by
        rw [h.row, hstarted, List.append_assoc]
        rfl
      rw [hrow, hstarted, List.takeWhile_append_of_pos hspares, List.find?_append, hnone]
      simp [hdoomed]

/-- What holds of a worker after any number of turns of its callers, its owner and itself. -/
structure Lawful (act : J → σ → Progress J σ) (s : Service J σ) : Prop where
  /-- Callers are told of each job that was stored, and of no other. -/
  told : s.outcomes.filterMap Outcome.submitted? = s.shared.admitted.filterMap Order.job?
  /-- What was stored is begun in the same order, and nothing is begun twice. -/
  row : s.shared.admitted = s.started ++ s.upcoming
  /-- One thing is begun after the other. -/
  alone : s.started = s.finished ∨ ∃ order, s.started = s.finished ++ [order]
  /-- A drop that comes back without a panic has seen everything done. -/
  done : s.tenure = .ended false → s.finished = s.shared.admitted ∧ s.journal = []
  /-- A drop that comes back with a panic tells of it. The job that panicked was the last. -/
  wrecked : s.tenure = .ended true → s.worker.activity = .crashed ∧ s.journal = [crashNotice] ∧
    ∃ order, s.started = s.finished ++ [order]
  /-- When it is known which jobs panic, a drop comes back with all begun up to the first. -/
  fated : ∀ doomed, Fated act doomed → ∀ panicked, s.tenure = .ended panicked →
    s.shared.admitted.any (Order.isDoomed doomed) = panicked ∧
      s.started = s.shared.admitted.takeWhile (fun order => !order.isDoomed doomed) ++
        (s.shared.admitted.find? (Order.isDoomed doomed)).toList
  /-- A drop can begin when no call is under way, and nothing keeps it from storing the stop. -/
  leaves : s.tenure = .held → s.isFree = true → (s.run act [.drop, .drop]).tenure = .joining
  /-- A drop comes back once there has been a panic. -/
  released : s.tenure = .joining → s.worker.activity = .crashed →
    ∀ later, (s.run act (later ++ [.drop])).tenure = .ended true
  /-- A drop comes back once the worker has had its turns, if its jobs come to an end. -/
  ends : ∀ cost, Ends act cost → s.tenure = .joining →
    ∀ later, s.shared.due cost ≤ later.countP Event.isWork →
      ∃ panicked, (s.run act (later ++ [.drop])).tenure = .ended panicked
  /-- A barrier is passed only when all in front of it is finished. -/
  barrier : ∀ ticket, .passed ticket true ∈ s.outcomes → .signal ticket ∈ s.shared.admitted ∧
    ∀ ahead behind, s.shared.admitted = ahead ++ .signal ticket :: behind →
      ahead ++ [.signal ticket] <+: s.finished
  /-- In quiet moments the counter tells what has not been begun, whether or not a caller still
  waits for it. -/
  counter : s.IsQuiet → s.worker.waiting + s.started.length = s.shared.admitted.length

/-- However callers, owner and worker take turns, and whichever jobs panic. -/
theorem lawful_run (act : J → σ → Progress J σ) (scene : σ) (callers : Nat)
    (events : List (Event J σ)) : ((start scene callers).run act events).Lawful act := by
  generalize hlast : (start scene callers).run act events = s
  have hordered : s.Ordered := hlast ▸ ordered_run (ordered_start scene callers) act events
  have hlane : s.InLane := hlast ▸ inLane_run (inLane_start scene callers) act events
  have htold : s.Told := hlast ▸ told_run act scene callers events
  have hcounted : s.Counted := hlast ▸ counted_run (counted_start scene callers) act events
  have hledger : Ledger s.shared s.threads.points := hlast ▸ ledger_run act scene callers events
  exact {
    told := hledger.jobs
    row := hordered.row
    alone := by
      cases hbegun : s.history.begun with
      | none => exact .inl (by simp [started, hbegun])
      | some entry => exact .inr ⟨entry.1, by simp [started, hbegun]⟩
    done := by
      intro hended
      have hstopped : s.worker.activity = .stopped := htold.ended false hended
      exact ⟨(hordered.finished_of_stopped hlane hstopped).1, by simp [htold.journal, hended]⟩
    wrecked := by
      intro hended
      have hcrashed : s.worker.activity = .crashed := htold.ended true hended
      obtain ⟨order, before, -, hstarted⟩ := hordered.started_of_crashed hcrashed
      exact ⟨hcrashed, by simp [htold.journal, hended], order, hstarted⟩
    fated := by
      intro doomed hfated panicked hended
      have hspared : s.Spared (Order.isDoomed doomed) :=
        hlast ▸ spared_run hfated scene callers events
      exact hordered.started_of_ended hlane hspared (htold.ended panicked hended)
    leaves := by
      intro hheld hfree
      rw [run_drop_drop act hheld hfree]
    released := by
      intro hjoining hcrashed later
      exact Wrecked.ended ⟨hordered, hcrashed, .inl hjoining⟩ act later
    ends := by
      intro cost hends hjoining later hdue
      have hclosed : s.tenure.isClosed = true := by simp [hjoining, Tenure.isClosed]
      exact Closing.ended hends later ⟨hordered, hlane, hclosed, .inr hdue⟩
    barrier := by
      intro ticket hpassed
      exact ⟨(hledger.passed ticket true hpassed).1,
        fun ahead behind hsplit => hordered.finished_of_passed hledger hpassed hsplit⟩
    counter := hcounted.waiting_eq hordered hlane }

private theorem fated_drill : Fated Drill.act (· == .panic) where
  finished := by
    intro job ground ground' h
    cases job <;> first | rfl | cases h
  left := by
    intro job ground rest ground' h
    cases job with
    | passGate => cases hopen : ground.gateOpen <;> simp [Drill.act, hopen] at h
    | _ => cases h
  panicked := by
    intro job ground ground' h
    cases job with
    | passGate => cases hopen : ground.gateOpen <;> simp [Drill.act, hopen] at h
    | panic => rfl
    | _ => cases h

/-- A barrier whose time is up stays in the row, and the job behind a panic is never begun. -/
theorem lawful_run_panic :
    let events : List (Event Drill Drill.Ground) :=
      [.call 0 (.submit (.mark 1)), .call 1 .barrier, .call 0 .resume, .call 1 .resume,
        .call 1 .giveUp, .call 0 (.trySubmit 9 .panic), .work, .call 0 .resume,
        .call 1 (.submit (.mark 2)), .call 1 .resume] ++ List.replicate 9 .work ++
        List.replicate 3 .drop
    let s := (start ⟨true, [], []⟩ 2).run Drill.act events
    s.shared.admitted = [.job (.mark 1), .signal 0, .job .panic, .job (.mark 2)] ∧
      s.started = [.job (.mark 1), .signal 0, .job .panic] ∧ s.tenure = .ended true ∧
      s.journal = [crashNotice] := by
  intro events s
  have hadmitted :
      s.shared.admitted = [.job (.mark 1), .signal 0, .job .panic, .job (.mark 2)] := by
    decide +kernel
  have hended : s.tenure = .ended true := by decide +kernel
  have hlawful : s.Lawful Drill.act := lawful_run Drill.act ⟨true, [], []⟩ 2 events
  have hstarted := (hlawful.fated _ fated_drill true hended).2
  rw [hadmitted] at hstarted
  exact ⟨hadmitted, hstarted, hended, (hlawful.wrecked hended).2.1⟩

end Service

end LogShipping.Worker
