import LogShipping.Proofs.Worker.Execution

namespace LogShipping.Worker

variable {J σ : Type}

/-- What is in front of a worker, which has been closed or not: orders, and behind them the stop if
it has been closed. -/
inductive Lane (w : Worker (Order J)) (withdrawn : Option (Backlog.Entry (Task (Order J)))) :
    Bool → Prop
  | serving (orders : List (Order J)) (awake : w.activity ≠ .stopped)
      (held : withdrawn.map Backlog.Entry.item ≠ some .stop)
      (items : w.backlog.items = orders.map .run) : Lane w withdrawn false
  | closing (orders : List (Order J)) (awake : w.activity ≠ .stopped)
      (held : withdrawn.map Backlog.Entry.item ≠ some .stop)
      (items : w.backlog.items = orders.map .run ++ [.stop]) : Lane w withdrawn true
  | last (held : withdrawn.map Backlog.Entry.item = some .stop) (items : w.backlog.items = []) :
      Lane w withdrawn true
  | stopped (asleep : w.activity = .stopped) (free : withdrawn = none)
      (items : w.backlog.items = []) : Lane w withdrawn true

private theorem Lane.onJob {w w' : Worker (Order J)}
    {withdrawn withdrawn' : Option (Backlog.Entry (Task (Order J)))} {closed : Bool}
    (h : Lane w withdrawn closed) (hbefore : w.activity ≠ .stopped)
    (hafter : w'.activity ≠ .stopped) (hbacklog : w'.backlog = w.backlog)
    (hwithdrawn : withdrawn' = withdrawn) : Lane w' withdrawn' closed := by
  subst hwithdrawn
  cases h with
  | serving orders awake held items => exact .serving orders hafter held (hbacklog ▸ items)
  | closing orders awake held items => exact .closing orders hafter held (hbacklog ▸ items)
  | last held items => exact .last held (hbacklog ▸ items)
  | stopped asleep free items => exact absurd asleep hbefore

private theorem Lane.work {act : J → σ → Progress J σ} {s s' : Shared J σ} {closed : Bool}
    (h : Lane s.worker s.withdrawn closed) (worked : Worked act s s') :
    Lane s'.worker s'.withdrawn closed := by
  cases worked with
  | withdraw entry rest free idle entries size =>
      have hitems : s.worker.backlog.items = entry.item :: rest.items := by
        simp [Backlog.items, entries]
      cases h with
      | serving orders awake held items =>
          rw [hitems] at items
          cases orders with
          | nil => cases items
          | cons order orders =>
              obtain ⟨hitem, hrest⟩ := List.cons.inj items
              exact .serving orders (by simp) (by simp [hitem]) hrest
      | closing orders awake held items =>
          rw [hitems] at items
          cases orders with
          | nil =>
              obtain ⟨hitem, hrest⟩ := List.cons.inj items
              exact .last (by simp [hitem]) hrest
          | cons order orders =>
              obtain ⟨hitem, hrest⟩ := List.cons.inj items
              exact .closing orders (by simp) (by simp [hitem]) hrest
      | last held items => simp [free] at held
      | stopped asleep free items => cases asleep.symm.trans idle
  | begin entry held =>
      have hitems := Backlog.items_discount entry s.worker.backlog
      have hawake (hitem : entry.item ≠ .stop) : entry.item.activity ≠ .stopped := by
        cases htask : entry.item with
        | run order => simp [Task.activity]
        | stop => exact absurd htask hitem
      cases h with
      | serving orders awake held' items =>
          exact .serving orders (hawake (by simpa [held] using held')) (by simp)
            (hitems.trans items)
      | closing orders awake held' items =>
          exact .closing orders (hawake (by simpa [held] using held')) (by simp)
            (hitems.trans items)
      | last held' items =>
          have hitem : entry.item = .stop := by simpa [held] using held'
          exact .stopped (by simp [hitem, Task.activity]) rfl (hitems.trans items)
      | stopped asleep free items => cases held.symm.trans free
  | goOn now rest floor free busy left => exact h.onJob (by simp [busy]) (by simp) rfl rfl
  | finish now floor free busy finished => exact h.onJob (by simp [busy]) (by simp) rfl rfl
  | crash now floor free busy panicked => exact h.onJob (by simp [busy]) (by simp) rfl rfl

private theorem Lane.store {w : Worker (Order J)}
    {withdrawn : Option (Backlog.Entry (Task (Order J)))} (h : Lane w withdrawn false)
    (order : Order J) : Lane
    { w with backlog := w.backlog.store ⟨.run order, true⟩ } withdrawn false := by
  cases h with
  | serving orders awake held items =>
      refine .serving (orders ++ [order]) awake held ?_
      rw [Backlog.items_store, items, List.map_append]
      rfl

private theorem Lane.close {w : Worker (Order J)}
    {withdrawn : Option (Backlog.Entry (Task (Order J)))} (h : Lane w withdrawn false) :
    Lane { w with backlog := w.backlog.store ⟨.stop, true⟩ } withdrawn true := by
  cases h with
  | serving orders awake held items =>
      refine .closing orders awake held ?_
      rw [Backlog.items_store, items]

private theorem Lane.count {w : Worker (Order J)}
    {withdrawn : Option (Backlog.Entry (Task (Order J)))} {closed : Bool}
    (h : Lane w withdrawn closed) : Lane
    { w with backlog := w.backlog.count } withdrawn closed := by
  cases h with
  | serving orders awake held items => exact .serving orders awake held items
  | closing orders awake held items => exact .closing orders awake held items
  | last held items => exact .last held items
  | stopped asleep free items => exact .stopped asleep free items

def Tenure.isClosed : Tenure → Bool
  | held => false
  | leaving => false
  | joining => true
  | ended _ => true

namespace Service

def InLane (s : Service J σ) : Prop :=
  Lane s.worker s.shared.withdrawn s.tenure.isClosed

theorem inLane_start (scene : σ) (callers : Nat) : (start scene callers : Service J σ).InLane :=
  .serving [] (by simp [start, worker, shared, Threads.start, Shared.new, Worker.new])
    (by simp [start, shared, Threads.start, Shared.new]) rfl

theorem InLane.step {s : Service J σ} (h : s.InLane) (act : J → σ → Progress J σ)
    (event : Event J σ) : (s.step act event).InLane := by
  generalize hnext : s.step act event = s'
  cases hnext ▸ turned_step act event s with
  | rest => exact h
  | call i point point' shared' held standing moved =>
      have hlane : Lane s.worker s.shared.withdrawn false := by
        simpa [InLane, held, Tenure.isClosed] using h
      have hstay : ({ s with threads := ⟨shared', s.threads.points.set i point'⟩ } :
          Service J σ).tenure.isClosed = false := by
        simp [held, Tenure.isClosed]
      rw [InLane, hstay]
      cases moved with
      | count order tickets fresh => exact hlane.count
      | reject job => exact hlane
      | submit job => exact hlane.store (.job job)
      | signal ticket => exact hlane.store (.signal ticket)
      | finish ticket reached signalled => exact hlane
  | work shared' worked => exact Lane.work h worked
  | scene change => exact h
  | leave held free =>
      have hlane : Lane s.worker s.shared.withdrawn false := by
        simpa [InLane, held, Tenure.isClosed] using h
      exact hlane.count
  | close leaving =>
      have hlane : Lane s.worker s.shared.withdrawn false := by
        simpa [InLane, leaving, Tenure.isClosed] using h
      exact hlane.close
  | stop joining stopped =>
      have hlane : Lane s.worker s.shared.withdrawn true := by
        simpa [InLane, joining, Tenure.isClosed] using h
      exact hlane
  | crash joining crashed =>
      have hlane : Lane s.worker s.shared.withdrawn true := by
        simpa [InLane, joining, Tenure.isClosed] using h
      exact hlane

theorem inLane_run {s : Service J σ} (h : s.InLane) (act : J → σ → Progress J σ)
    (events : List (Event J σ)) : (s.run act events).InLane :=
  run_induction (fun _ event hlane => hlane.step act event) events h

private theorem InLane.empty_of_stopped {s : Service J σ} (h : s.InLane) (hordered : s.Ordered)
    (hstopped : s.worker.activity = .stopped) :
    s.shared.withdrawn = none ∧ s.worker.backlog.items = [] := by
  have hlane : Lane s.worker s.shared.withdrawn s.tenure.isClosed := h
  generalize s.tenure.isClosed = closed at hlane
  cases hlane with
  | serving orders awake held items => exact absurd hstopped awake
  | closing orders awake held items => exact absurd hstopped awake
  | last held items =>
      cases hwithdrawn : s.shared.withdrawn with
      | none => simp [hwithdrawn] at held
      | some entry => cases (hordered.waits entry hwithdrawn).symm.trans hstopped
  | stopped asleep free items => exact ⟨free, items⟩

theorem Ordered.finished_of_stopped {s : Service J σ} (h : s.Ordered) (hlane : s.InLane)
    (hstopped : s.worker.activity = .stopped) :
    s.finished = s.shared.admitted ∧ s.started = s.shared.admitted := by
  have hbegun := h.begun_of_rest (.inr hstopped)
  have hupcoming : s.upcoming = [] := by
    obtain ⟨hfree, hitems⟩ := hlane.empty_of_stopped h hstopped
    simp [upcoming, hfree, jobs, hitems]
  have hstarted : s.started = s.finished := by simp [started, hbegun]
  have hrow : s.shared.admitted = s.started := by rw [h.row, hupcoming, List.append_nil]
  exact ⟨(hrow.trans hstarted).symm, hrow.symm⟩

/-- A worker that has panicked has begun one more than it has finished. -/
theorem Ordered.started_of_crashed {s : Service J σ} (h : s.Ordered)
    (hcrashed : s.worker.activity = .crashed) :
    ∃ order before, s.history.begun = some (order, before) ∧ s.started = s.finished ++ [order] := by
  cases hbegun : s.history.begun with
  | none => rcases h.rest hbegun with hidle | hstopped <;> simp_all
  | some entry => exact ⟨entry.1, entry.2, rfl, by simp [started, hbegun]⟩

structure Told (s : Service J σ) : Prop where
  ended : ∀ panicked, s.tenure = .ended panicked →
    s.worker.activity = (if panicked then .crashed else .stopped)
  journal : s.journal = if s.tenure = .ended true then [crashNotice] else []

theorem told_start (scene : σ) (callers : Nat) : (start scene callers : Service J σ).Told where
  ended := by
    intro panicked h
    cases h
  journal := rfl

theorem Told.step {s : Service J σ} (h : s.Told) (hordered : s.Ordered)
    (act : J → σ → Progress J σ) (event : Event J σ) : (s.step act event).Told := by
  have hjournal := h.journal
  generalize hnext : s.step act event = s'
  cases hnext ▸ turned_step act event s with
  | rest => exact h
  | call i point point' shared' held standing moved =>
      obtain ⟨orders, hfed⟩ := moved.fed
      exact ⟨fun panicked hended => hfed.activity.trans (h.ended panicked hended), hjournal⟩
  | work shared' worked =>
      refine ⟨fun panicked htenure => ?_, hjournal⟩
      have hended : s.worker.activity = .stopped ∨ s.worker.activity = .crashed := by
        cases panicked with
        | false => exact .inl (h.ended false htenure)
        | true => exact .inr (h.ended true htenure)
      exact (hordered.no_work hended worked).elim
  | scene change => exact ⟨h.ended, hjournal⟩
  | leave held free => exact ⟨by simp, by simpa [held, onShared] using hjournal⟩
  | close leaving => exact ⟨by simp, by simpa [leaving, onShared] using hjournal⟩
  | stop joining stopped =>
      refine ⟨?_, by simpa [joining] using hjournal⟩
      rintro panicked ⟨⟩
      exact stopped
  | crash joining crashed =>
      refine ⟨?_, by simpa [joining] using hjournal⟩
      rintro panicked ⟨⟩
      exact crashed

theorem told_run (act : J → σ → Progress J σ) (scene : σ) (callers : Nat)
    (events : List (Event J σ)) : ((start scene callers).run act events).Told := by
  have hboth : ((start scene callers).run act events).Ordered ∧
      ((start scene callers).run act events).Told := by
    refine run_induction (P := fun s => s.Ordered ∧ s.Told) ?_ events
      ⟨ordered_start scene callers, told_start scene callers⟩
    intro s event h
    exact ⟨h.1.step act event, h.2.step h.1 act event⟩
  exact hboth.2

end Service

/-- Every job comes to an end by itself, in so many steps at most. -/
structure Ends (act : J → σ → Progress J σ) (cost : J → Nat) : Prop where
  goes : ∀ job scene, act job scene ≠ .waiting
  left : ∀ {job scene rest scene'}, act job scene = .left rest scene' → cost rest < cost job

def Order.steps (cost : J → Nat) : Order J → Nat
  | job j => cost j + 1
  | signal _ => 1

private theorem Ends.order {act : J → σ → Progress J σ} {cost : J → Nat} (h : Ends act cost) :
    Ends (Order.act act) (Order.steps cost) where
  goes := by
    intro order floor
    cases order with
    | signal ticket => simp [Order.act]
    | job job =>
        simp only [Order.act]
        split
        · simp
        · simp
        · exact absurd ‹_› (h.goes job floor.scene)
        · simp
  left := by
    intro order floor rest floor' hact
    cases order with
    | signal ticket => cases hact
    | job job =>
        simp only [Order.act] at hact
        split at hact
        · cases hact
        · cases hact
          exact Nat.succ_lt_succ (h.left ‹_›)
        · cases hact
        · cases hact

def Shared.due (cost : J → Nat) (s : Shared J σ) : Nat :=
  s.worker.activity.steps (Order.steps cost) +
    (s.withdrawn.toList.map fun entry => entry.item.steps (Order.steps cost)).sum +
      (s.worker.backlog.entries.map fun entry => 1 + entry.item.steps (Order.steps cost)).sum

private theorem Shared.empty_of_due {cost : J → Nat} {s : Shared J σ} (h : s.due cost = 0) :
    s.withdrawn = none ∧ s.worker.backlog.items = [] := by
  have hpos (task : Task (Order J)) : 0 < task.steps (Order.steps cost) := by
    cases task with
    | run order => exact Nat.add_pos_left Nat.one_pos _
    | stop => exact Nat.one_pos
  obtain ⟨⟨⟨entries, size⟩, activity⟩, withdrawn, floor, tickets, admitted, outcomes⟩ := s
  cases withdrawn with
  | some entry =>
      have := hpos entry.item
      simp only [due, Option.toList_some, List.map_cons, List.sum_cons] at h
      omega
  | none =>
      cases entries with
      | nil => exact ⟨rfl, rfl⟩
      | cons entry rest =>
          simp only [due, List.map_cons, List.sum_cons] at h
          omega

private theorem Worked.due_lt {act : J → σ → Progress J σ} {cost : J → Nat} (hends : Ends act cost)
    {s s' : Shared J σ} (h : Worked act s s') : s'.due cost < s.due cost := by
  cases h with
  | withdraw entry rest free idle entries size =>
      simp only [Shared.due, free, idle, entries, Activity.steps, Option.toList_none,
        Option.toList_some, List.map_cons, List.map_nil, List.sum_cons, List.sum_nil]
      omega
  | begin entry held =>
      have hentries : (s.worker.backlog.discount entry).entries = s.worker.backlog.entries := by
        unfold Backlog.discount
        split <;> rfl
      simp only [Shared.due, held, hentries, Option.toList_none, Option.toList_some,
        List.map_cons, List.map_nil, List.sum_cons, List.sum_nil]
      cases entry.item with
      | run order =>
          simp only [Task.activity, Task.steps, Activity.steps]
          omega
      | stop =>
          simp only [Task.activity, Task.steps, Activity.steps]
          omega
  | goOn order rest floor free busy left =>
      have hless := hends.order.left left
      simp only [Shared.due, busy, Activity.steps]
      omega
  | finish order floor free busy finished =>
      have hpos : 0 < order.steps cost := by cases order <;> simp [Order.steps]
      simp only [Shared.due, busy, Activity.steps]
      omega
  | crash order floor free busy panicked =>
      have hpos : 0 < order.steps cost := by cases order <;> simp [Order.steps]
      simp only [Shared.due, busy, Activity.steps]
      omega

private theorem rests_of_work?_eq_none {act : J → σ → Progress J σ} {cost : J → Nat}
    (hends : Ends act cost) {s : Shared J σ} (h : s.work? act = none) :
    s.withdrawn = none ∧ (s.worker.activity = .stopped ∨ s.worker.activity = .crashed ∨
      s.worker.activity = .idle ∧ s.worker.backlog.items = []) := by
  obtain ⟨⟨backlog, activity⟩, withdrawn, floor, tickets, admitted, outcomes⟩ := s
  cases withdrawn with
  | some entry => cases h
  | none =>
      refine ⟨rfl, ?_⟩
      cases activity with
      | idle =>
          have hnone : backlog.take? = none := Option.map_eq_none_iff.mp h
          refine .inr (.inr ⟨rfl, ?_⟩)
          obtain ⟨entries, size⟩ := backlog
          cases entries with
          | nil => rfl
          | cons entry rest => cases hnone
      | busy order =>
          have hnone :
              (⟨backlog, .busy order⟩ : Worker (Order J)).step? (Order.act act) floor = none :=
            Option.map_eq_none_iff.mp h
          simp only [step?] at hnone
          split at hnone
          · cases hnone
          · cases hnone
          · exact absurd ‹_› (hends.order.goes order floor)
          · cases hnone
      | stopped => exact .inl rfl
      | crashed => exact .inr (.inl rfl)

namespace Service

private theorem InLane.stopped_of_idle {s : Service J σ} (h : s.InLane)
    (hclosed : s.tenure.isClosed = true) (hfree : s.shared.withdrawn = none)
    (hitems : s.worker.backlog.items = []) : s.worker.activity = .stopped := by
  have hlane : Lane s.worker s.shared.withdrawn true := hclosed ▸ h
  cases hlane with
  | closing orders awake held items => simp [items] at hitems
  | last held items => simp [hfree] at held
  | stopped asleep free items => exact asleep

private theorem InLane.due_of_stopped {s : Service J σ} (h : s.InLane) (hordered : s.Ordered)
    (hstopped : s.worker.activity = .stopped) (cost : J → Nat) : s.shared.due cost = 0 := by
  obtain ⟨hfree, hitems⟩ := h.empty_of_stopped hordered hstopped
  have hactivity : s.shared.worker.activity = .stopped := hstopped
  have hentries : s.shared.worker.backlog.entries = [] := List.map_eq_nil_iff.mp hitems
  simp [Shared.due, hactivity, hfree, hentries, Activity.steps]

private theorem drop_of_ended {s : Service J σ} (hclosed : s.tenure.isClosed = true)
    (hended : s.worker.activity = .stopped ∨ s.worker.activity = .crashed) :
    ∃ panicked, s.drop.tenure = .ended panicked := by
  cases htenure : s.tenure with
  | held => simp [htenure, Tenure.isClosed] at hclosed
  | leaving => simp [htenure, Tenure.isClosed] at hclosed
  | joining =>
      rcases hended with hended | hended
      · exact ⟨false, by simp [drop, htenure, hended]⟩
      · exact ⟨true, by simp [drop, htenure, hended]⟩
  | ended panicked => exact ⟨panicked, by simp [drop, htenure]⟩

/-- A closed worker has crashed, or is so many steps from its end at most. -/
structure Closing (cost : J → Nat) (left : Nat) (s : Service J σ) : Prop where
  ordered : s.Ordered
  lane : s.InLane
  closed : s.tenure.isClosed = true
  near : s.worker.activity = .crashed ∨ s.shared.due cost ≤ left

private theorem Closing.drop {cost : J → Nat} {left : Nat} {s : Service J σ}
    (h : s.Closing cost left) (act : J → σ → Progress J σ) :
    (s.step act .drop).Closing cost left := by
  have hsame : (s.step act .drop).shared = s.shared ∧
      (s.step act .drop).tenure.isClosed = true := by
    have hclosed := h.closed
    cases htenure : s.tenure with
    | held => simp [htenure, Tenure.isClosed] at hclosed
    | leaving => simp [htenure, Tenure.isClosed] at hclosed
    | joining =>
        cases hactivity : s.worker.activity <;>
          simp [Service.step, Service.drop, htenure, hactivity, Tenure.isClosed, shared]
    | ended panicked => simp [Service.step, Service.drop, htenure, Tenure.isClosed]
  refine ⟨h.ordered.step act .drop, h.lane.step act .drop, hsame.2, ?_⟩
  rw [worker, hsame.1]
  exact h.near

private theorem Closing.work {act : J → σ → Progress J σ} {cost : J → Nat} (hends : Ends act cost)
    {left : Nat} {s : Service J σ} (h : s.Closing cost (left + 1)) :
    (s.step act .work).Closing cost left := by
  cases hwork : s.shared.work? act with
  | none =>
      have hstay : s.step act .work = s := by simp [Service.step, Service.work, hwork]
      obtain ⟨hfree, hrests⟩ := rests_of_work?_eq_none hends hwork
      rw [hstay]
      refine ⟨h.ordered, h.lane, h.closed, ?_⟩
      have hstopped (hstopped : s.worker.activity = .stopped) : s.shared.due cost ≤ left := by
        rw [h.lane.due_of_stopped h.ordered hstopped]
        exact Nat.zero_le left
      rcases hrests with hended | hcrashed | ⟨-, hitems⟩
      · exact .inr (hstopped hended)
      · exact .inl hcrashed
      · exact .inr (hstopped (h.lane.stopped_of_idle h.closed hfree hitems))
  | some shared' =>
      have hworked := worked_of_work? hwork
      have hnext : s.step act .work = { s.onShared fun _ => shared' with
          history := s.history.next shared'.worker shared'.floor } := by
        simp [Service.step, Service.work, hwork]
      have hless := hworked.due_lt hends
      refine ⟨h.ordered.step act .work, h.lane.step act .work, ?_, ?_⟩
      · rw [hnext]
        exact h.closed
      · rw [hnext]
        rcases h.near with hcrashed | hdue
        · exact (h.ordered.no_work (.inr hcrashed) hworked).elim
        · exact .inr (Nat.le_of_lt_succ (Nat.lt_of_lt_of_le hless hdue))

theorem Closing.step {act : J → σ → Progress J σ} {cost : J → Nat} (hends : Ends act cost)
    {left : Nat} {event : Event J σ} {s : Service J σ}
    (h : s.Closing cost (left + event.isWork.toNat)) : (s.step act event).Closing cost left := by
  cases event with
  | call i move =>
      have hbusy : s.tenure ≠ .held := by
        intro hheld
        have hclosed := h.closed
        simp [hheld, Tenure.isClosed] at hclosed
      have hstay : s.step act (.call i move) = s := if_neg hbusy
      rw [hstay]
      exact h
  | work => exact Closing.work hends h
  | scene change => exact ⟨h.ordered.step act _, h.lane.step act _, h.closed, h.near⟩
  | drop => exact Closing.drop h act

theorem Closing.ended {act : J → σ → Progress J σ} {cost : J → Nat} (hends : Ends act cost)
    (events : List (Event J σ)) {s : Service J σ}
    (h : s.Closing cost (events.countP Event.isWork)) :
    ∃ panicked, (s.run act (events ++ [.drop])).tenure = .ended panicked := by
  induction events generalizing s with
  | nil =>
      have hended : s.worker.activity = .stopped ∨ s.worker.activity = .crashed := by
        rcases h.near with hcrashed | hdue
        · exact .inr hcrashed
        · obtain ⟨hfree, hitems⟩ := Shared.empty_of_due (Nat.le_zero.mp hdue)
          exact .inl (h.lane.stopped_of_idle h.closed hfree hitems)
      exact drop_of_ended h.closed hended
  | cons event rest ih =>
      apply ih (s := s.step act event)
      apply Closing.step hends
      have hcount : (event :: rest).countP Event.isWork =
          rest.countP Event.isWork + event.isWork.toNat := by
        cases hwork : event.isWork <;> simp [hwork]
      rwa [hcount] at h

/-- A worker that has panicked, and whose owner waits for its end or knows of it. -/
structure Wrecked (s : Service J σ) : Prop where
  ordered : s.Ordered
  crashed : s.worker.activity = .crashed
  waits : s.tenure = .joining ∨ s.tenure = .ended true

theorem Wrecked.step {s : Service J σ} (h : s.Wrecked) (act : J → σ → Progress J σ)
    (event : Event J σ) : (s.step act event).Wrecked := by
  have hwaits := h.waits
  have hordered := h.ordered.step act event
  generalize hnext : s.step act event = s' at hordered
  cases hnext ▸ turned_step act event s with
  | rest => exact h
  | call i point point' shared' held standing moved => simp [held] at hwaits
  | work shared' worked => exact (h.ordered.no_work (.inr h.crashed) worked).elim
  | scene change => exact ⟨hordered, h.crashed, hwaits⟩
  | leave held free => simp [held] at hwaits
  | close leaving => simp [leaving] at hwaits
  | stop joining stopped => cases h.crashed.symm.trans stopped
  | crash joining crashed => exact ⟨hordered, crashed, .inr rfl⟩

/-- The drop of a worker that has panicked comes back. -/
theorem Wrecked.ended {s : Service J σ} (h : s.Wrecked) (act : J → σ → Progress J σ)
    (events : List (Event J σ)) : (s.run act (events ++ [.drop])).tenure = .ended true := by
  have hlast : (s.run act events).Wrecked :=
    run_induction (fun _ event hwrecked => hwrecked.step act event) events h
  rw [run_append]
  generalize s.run act events = last at hlast
  show last.drop.tenure = .ended true
  rcases hlast.waits with hjoining | hended
  · simp [Service.drop, hjoining, hlast.crashed]
  · simp [Service.drop, hended]

end Service

end LogShipping.Worker
