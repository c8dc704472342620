import LogShipping.Dispatcher.Chronicle
import LogShipping.Proofs.Worker.Steps

namespace LogShipping.Dispatcher

variable {H ω : Type}

def Job.ticket? : Job → Option Nat
  | barrier ticket => some ticket
  | _ => none

structure Called (job : Option Job) (d d' : Dispatcher (Watched H)) : Prop where
  worker : d'.worker = job.elim d.worker fun job => d.worker.submit job
  fresh : ∀ record rest, job ≠ some (.deliver record rest)
  capacity : d'.capacity = d.capacity
  origin : d'.scene.origin = d.scene.origin
  offers : d'.targets.map Watched.offers = d.targets.map Watched.offers
  reached : d'.scene.reached = d.scene.reached
  tickets : List.range d'.tickets = List.range d.tickets ++ job.toList.filterMap Job.ticket?

private theorem called_none {d d' : Dispatcher (Watched H)} (hworker : d'.worker = d.worker)
    (hcapacity : d'.capacity = d.capacity) (horigin : d'.scene.origin = d.scene.origin)
    (htargets : d'.targets.map Watched.offers = d.targets.map Watched.offers)
    (hreached : d'.scene.reached = d.scene.reached) (htickets : d'.tickets = d.tickets) :
    Called none d d' :=
  ⟨hworker, by simp, hcapacity, horigin, htargets, hreached, by simp [htickets]⟩

private theorem called_self (d : Dispatcher (Watched H)) : Called none d d :=
  called_none rfl rfl rfl rfl rfl rfl

theorem called_updateTarget {i : Nat} {f : Watched H → Watched H} {d : Dispatcher (Watched H)}
    (hf : ∀ w, d.targets[i]? = some w → (f w).offers = w.offers) :
    Called none d (d.updateTarget i f) := by
  refine called_none rfl rfl rfl ?_ rfl rfl
  show (d.targets.modify i f).map Watched.offers = d.targets.map Watched.offers
  apply List.ext_getElem?
  intro j
  by_cases hij : i = j
  · subst hij
    cases htarget : d.targets[i]? with
    | none => simp [htarget]
    | some w => simp [htarget, hf w htarget]
  · simp [hij]

private theorem called_countRefusal (now : Nat) (d : Dispatcher (Watched H)) :
    Called none d (d.countRefusal now) :=
  called_none rfl rfl rfl rfl rfl rfl

private theorem called_submit? {draft : Draft} {d d' : Dispatcher (Watched H)}
    (h : d.submit? draft = some d') :
    d.worker.backlog.size < d.capacity ∧ Called (some (.dispatch draft d.base)) d d' := by
  obtain ⟨worker, hworker, rfl⟩ := Option.map_eq_some_iff.mp h
  obtain ⟨hroom, rfl⟩ := Worker.trySubmit?_eq_some hworker
  exact ⟨hroom, rfl, by simp, rfl, rfl, rfl, rfl, (List.append_nil _).symm⟩

theorem scene_log (now : Nat) (draft : Draft) (s : Shared H) :
    (s.log now draft).dispatcher.scene = s.dispatcher.scene := by
  unfold Shared.log
  by_cases hpasses : draft.severity.passes s.dispatcher.threshold
  · cases hsubmit : s.dispatcher.submit? draft with
    | some d =>
        obtain ⟨worker, -, rfl⟩ := Option.map_eq_some_iff.mp hsubmit
        simp [hpasses, hsubmit]
    | none => simp [hpasses, hsubmit, countRefusal]
  · simp [hpasses]

theorem scene_askFlush (now : Nat) (tick : Tick) (timeout : Span) (d : Dispatcher H) :
    (d.askFlush now tick timeout).1.scene = d.scene := by
  unfold askFlush reportRefusals
  cases tick.add? timeout <;> rfl

private theorem called_log (now : Nat) (draft : Draft) {s : Shared (Watched H)}
    (hserving : s.dispatcher.worker.Serving) :
    ∃ job, Called job s.dispatcher (s.log now draft).dispatcher ∧
      (s.log now draft).taken = s.taken ++ job.toList.filterMap Job.draft? ∧
      job.toList.filterMap Job.draft? =
        if draft.severity.passes s.dispatcher.threshold ∧
            s.dispatcher.worker.jobs.length < s.dispatcher.capacity then
          [(draft, s.dispatcher.base)]
        else [] := by
  by_cases hpasses : draft.severity.passes s.dispatcher.threshold
  · cases hsubmit : s.dispatcher.submit? draft with
    | some d =>
        obtain ⟨hroom, hcalled⟩ := called_submit? hsubmit
        rw [hserving.size_eq] at hroom
        exact ⟨_, by simpa [Shared.log, hpasses, hsubmit] using hcalled,
          by simp [Shared.log, hpasses, hsubmit, Job.draft?],
          by simp [hpasses, hroom, Job.draft?]⟩
    | none =>
        have hfull := Worker.trySubmit?_eq_none (Option.map_eq_none_iff.mp hsubmit)
        rw [hserving.size_eq] at hfull
        refine ⟨none, ?_, by simp [Shared.log, hpasses, hsubmit],
          by simp [Nat.not_lt.mpr hfull]⟩
        simpa [Shared.log, hpasses, hsubmit] using
          called_countRefusal now s.dispatcher
  · exact ⟨none, by simpa [Shared.log, hpasses] using called_self s.dispatcher,
      by simp [Shared.log, hpasses], by simp [hpasses]⟩

theorem called_askFlush (now : Nat) (tick : Tick) (timeout : Span) (d : Dispatcher (Watched H)) :
    (d.askFlush now tick timeout).2 = none ∧ Called none d (d.askFlush now tick timeout).1 ∨
      (d.askFlush now tick timeout).2 = some d.tickets ∧
        Called (some (.barrier d.tickets)) d (d.askFlush now tick timeout).1 := by
  unfold askFlush reportRefusals
  cases tick.add? timeout with
  | none => exact .inl ⟨rfl, rfl, by simp, rfl, rfl, rfl, rfl, (List.append_nil _).symm⟩
  | some deadline => exact .inr ⟨rfl, rfl, by simp, rfl, rfl, rfl, rfl, List.range_succ⟩

variable [Target H]

private theorem called_register (place : Nat) (d : Dispatcher (Watched H)) :
    Called none d (d.register place) :=
  called_none rfl rfl rfl rfl rfl rfl

theorem called_askTarget (now : Nat) (d : Dispatcher (Watched H)) (place : Nat) :
    Called none d (d.askTarget now place).1 := by
  unfold askTarget
  cases htarget : d.targets[place]? with
  | none => exact called_self d
  | some w =>
      refine called_updateTarget fun w' hw' => ?_
      obtain rfl : w = w' := Option.some.inj (htarget.symm.trans hw')
      rfl

inductive CallStep (s : Shared (Watched H)) : Move → Point → Point → Shared (Watched H) → Prop
  | setThreshold (threshold : Severity) : CallStep s (.setThreshold threshold) .idle .idle
      { s with dispatcher := s.dispatcher.setThreshold threshold }
  | addField (key : String) (value : FieldValue) : CallStep s (.addField key value) .idle .idle
      { s with dispatcher := s.dispatcher.addField key value }
  | register (place : Nat) : CallStep s (.register place) .idle .idle
      { s with dispatcher := s.dispatcher.register place }
  | unregisterAll : CallStep s .unregisterAll .idle .idle
      { s with dispatcher := s.dispatcher.unregisterAll }
  | log (now : Nat) (draft : Draft) : CallStep s (.log now draft) .idle .idle (s.log now draft)
  | flush (now : Nat) (tick : Tick) (timeout : Span) (point : Point)
      (waits : (s.dispatcher.askFlush now tick timeout).2 = none ∧ point = .idle ∨
        (s.dispatcher.askFlush now tick timeout).2 = some s.dispatcher.tickets ∧
          point = .draining s.dispatcher.tickets s.taken.length) :
      CallStep s (.flush now tick timeout) .idle point
        { s with dispatcher := (s.dispatcher.askFlush now tick timeout).1 }
  | drain (ticket promised : Nat) (reached : s.dispatcher.isReached ticket = true) :
      CallStep s .resume (.draining ticket promised)
        (.flushing s.dispatcher.registered [] promised) s
  | ask (index now place : Nat) (rest : List Nat) (asked : List (Nat × Option Nat))
      (promised : Nat) (next : rest[index]? = some place) :
      CallStep s (.ask index now) (.flushing rest asked promised)
        (.flushing (rest.eraseIdx index)
          (asked ++ [(place, (s.dispatcher.askTarget now place).2)]) promised)
        { s with dispatcher := (s.dispatcher.askTarget now place).1 }
  | finish (asked : List (Nat × Option Nat)) (promised : Nat) (flushed : Bool)
      (ended : s.dispatcher.outcome? asked = some flushed) :
      CallStep s .resume (.flushing [] asked promised) .idle (s.finish promised flushed)
  | giveUp (point : Point) (promised : Nat) (busy : point ≠ .idle) :
      CallStep s .giveUp point .idle (s.finish promised false)

theorem callStep_cases {move : Move} {point point' : Point} {s s' : Shared (Watched H)}
    (h : callStep move point s = some (point', s')) : CallStep s move point point' s' := by
  cases point with
  | idle =>
      cases move with
      | setThreshold threshold => cases h; exact .setThreshold threshold
      | addField key value => cases h; exact .addField key value
      | register place => cases h; exact .register place
      | unregisterAll => cases h; exact .unregisterAll
      | log now draft => cases h; exact .log now draft
      | flush now tick timeout =>
          simp only [callStep, Option.some.injEq, Prod.mk.injEq] at h
          obtain ⟨hpoint, rfl⟩ := h
          refine .flush now tick timeout point' ?_
          rcases called_askFlush now tick timeout s.dispatcher with ⟨hticket, -⟩ | ⟨hticket, -⟩
          · rw [hticket] at hpoint
            exact .inl ⟨hticket, hpoint.symm⟩
          · rw [hticket] at hpoint
            exact .inr ⟨hticket, hpoint.symm⟩
      | ask index now => cases h
      | resume => cases h
      | giveUp => cases h
  | draining ticket promised =>
      cases move with
      | resume =>
          by_cases hreached : s.dispatcher.isReached ticket
          · simp only [callStep, hreached, if_true] at h
            cases h
            exact .drain ticket promised hreached
          · simp [callStep, hreached] at h
      | giveUp => cases h; exact .giveUp _ promised (by simp)
      | _ => cases h
  | flushing rest asked promised =>
      cases move with
      | ask index now =>
          obtain ⟨place, hplace, hnext⟩ := Option.map_eq_some_iff.mp h
          cases hnext
          exact .ask index now place rest asked promised hplace
      | resume =>
          cases rest with
          | nil =>
              obtain ⟨flushed, hover, hnext⟩ := Option.map_eq_some_iff.mp h
              cases hnext
              exact .finish asked promised flushed hover
          | cons place rest => cases h
      | giveUp => cases h; exact .giveUp _ promised (by simp)
      | _ => cases h

theorem called_of_callStep {s : Threads (Shared (Watched H)) Point} {i : Nat} {move : Move}
    {point point' : Point} {shared' : Shared (Watched H)}
    (hserving : s.shared.dispatcher.worker.Serving) (hpoint : s.points[i]? = some point)
    (hact : callStep move point s.shared = some (point', shared')) :
    ∃ job, Called job s.shared.dispatcher shared'.dispatcher ∧
      shared'.taken = s.shared.taken ++ job.toList.filterMap Job.draft? ∧
      job.toList.filterMap Job.draft? = handedIn (.caller i move : Turn ω) s := by
  cases callStep_cases hact with
  | log now draft =>
      obtain ⟨job, hcalled, htaken, hdraft⟩ := called_log now draft hserving
      refine ⟨job, hcalled, htaken, ?_⟩
      simpa [handedIn, hpoint] using hdraft
  | flush now tick timeout point waits =>
      rcases called_askFlush now tick timeout s.shared.dispatcher with ⟨-, hcalled⟩ | ⟨-, hcalled⟩
      · exact ⟨_, hcalled, (List.append_nil _).symm, rfl⟩
      · exact ⟨_, hcalled, (List.append_nil _).symm, rfl⟩
  | ask index now place rest asked promised next =>
      exact ⟨none, called_askTarget now _ place, (List.append_nil _).symm, rfl⟩
  | register place =>
      exact ⟨none, called_register place _, (List.append_nil _).symm, rfl⟩
  | setThreshold threshold =>
      exact ⟨none, called_none rfl rfl rfl rfl rfl rfl, (List.append_nil _).symm, rfl⟩
  | addField key value =>
      exact ⟨none, called_none rfl rfl rfl rfl rfl rfl, (List.append_nil _).symm, rfl⟩
  | unregisterAll =>
      exact ⟨none, called_none rfl rfl rfl rfl rfl rfl, (List.append_nil _).symm, rfl⟩
  | drain ticket promised reached => exact ⟨none, called_self _, (List.append_nil _).symm, rfl⟩
  | finish asked promised flushed ended =>
      exact ⟨none, called_self _, (List.append_nil _).symm, rfl⟩
  | giveUp point promised busy => exact ⟨none, called_self _, (List.append_nil _).symm, rfl⟩

end LogShipping.Dispatcher
