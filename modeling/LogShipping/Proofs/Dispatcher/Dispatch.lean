import LogShipping.Proofs.Dispatcher.Calls

namespace LogShipping.Dispatcher

variable {H ω : Type}

private theorem Called.undispatched {job : Option Job} {d d' : Dispatcher (Watched H)}
    (h : Called job d d') : Dispatcher.undispatched d'.worker =
      Dispatcher.undispatched d.worker ++ job.toList.filterMap Job.draft? := by
  unfold Dispatcher.undispatched
  rw [h.worker]
  cases job with
  | none => simp
  | some job =>
      rw [Option.elim_some, Worker.pending_submit, List.filterMap_append]
      rfl

private theorem Called.owed {job : Option Job} {d d' : Dispatcher (Watched H)} (h : Called job d d')
    (i : Nat) : Dispatcher.owed i d'.worker = Dispatcher.owed i d.worker := by
  unfold Dispatcher.owed
  rw [h.worker]
  cases job <;> rfl

private theorem Called.serving {job : Option Job} {d d' : Dispatcher (Watched H)}
    (h : Called job d d') (hserving : d.worker.Serving) : d'.worker.Serving := by
  rw [h.worker]
  cases job with
  | none => exact hserving
  | some job => exact hserving.submit job

private theorem Called.mem_jobs {job : Option Job} {d d' : Dispatcher (Watched H)}
    (h : Called job d d') {waiting : Job} (hmem : waiting ∈ d'.worker.jobs) :
    waiting ∈ d.worker.jobs ∨ job = some waiting := by
  rw [h.worker] at hmem
  cases job with
  | none => exact .inl hmem
  | some job =>
      rw [Option.elim_some, Worker.jobs_submit] at hmem
      rcases List.mem_append.mp hmem with hold | hnew
      · exact .inl hold
      · exact .inr (by rw [List.mem_singleton.mp hnew])

private theorem Called.offered {job : Option Job} {d d' : Dispatcher (Watched H)}
    (h : Called job d d') {i : Nat} {w' : Watched H} (hw' : d'.targets[i]? = some w') :
    ∃ w, d.targets[i]? = some w ∧ w'.offered = w.offered := by
  have hoffers := congrArg (fun offers => offers[i]?) h.offers
  simp only [List.getElem?_map, hw', Option.map_some] at hoffers
  obtain ⟨w, hw, hsame⟩ := Option.map_eq_some_iff.mp hoffers.symm
  exact ⟨w, hw, congrArg (List.map Prod.fst) hsame.symm⟩

variable [Target H]

inductive Offered (now : Nat) (r : Record) (w : Watched H) : Watched H → Prop
  | answered (target : H) (result : Except Refusal Unit)
      (reply : Target.offer now r w.target = .answered target result) :
      Offered now r w ⟨target, w.offers ++ [(r, result)]⟩
  | begun (target : H) (reply : Target.offer now r w.target = .begun target) :
      Offered now r w ⟨target, w.offers⟩

inductive JobStep (scene : Scene (Watched H)) : Job → Worker.Progress Job (Scene (Watched H)) → Prop
  | dispatch (draft : Draft) (base : Fields) : JobStep scene (.dispatch draft base)
      (.left (.deliver (draft.complete scene.origin base) scene.registered) scene)
  | delivered (record : Record) : JobStep scene (.deliver record []) (.finished scene)
  | skip (record : Record) (i : Nat) (rest : List Nat) (missing : scene.targets[i]? = none) :
      JobStep scene (.deliver record (i :: rest)) (.left (.deliver record rest) scene)
  | offer (record : Record) (i : Nat) (rest : List Nat) (w : Watched H) (target : H)
      (result : Except Refusal Unit) (found : scene.targets[i]? = some w)
      (reply : Target.offer scene.now record w.target = .answered target result) :
      JobStep scene (.deliver record (i :: rest))
        (.left (.deliver record rest)
          { scene with targets := scene.targets.set i ⟨target, w.offers ++ [(record, result)]⟩ })
  | begin (record : Record) (i : Nat) (rest : List Nat) (w : Watched H) (target : H)
      (found : scene.targets[i]? = some w)
      (reply : Target.offer scene.now record w.target = .begun target) :
      JobStep scene (.deliver record (i :: rest))
        (.left (.deliver record (i :: rest))
          { scene with targets := scene.targets.set i ⟨target, w.offers⟩ })
  | wait (job : Job) : JobStep scene job .waiting
  | pass (ticket : Nat) : JobStep scene (.barrier ticket)
      (.finished { scene with reached := scene.reached ++ [ticket] })

theorem jobStep_act (job : Job) (scene : Scene (Watched H)) :
    JobStep scene job (act job scene) := by
  match job with
  | .dispatch draft base => exact .dispatch draft base
  | .deliver record [] => exact .delivered record
  | .barrier ticket => exact .pass ticket
  | .deliver record (i :: rest) =>
      cases hfound : scene.targets[i]? with
      | none =>
          simp only [act, hfound]
          exact .skip record i rest hfound
      | some w =>
          cases hoffer : Target.offer scene.now record w.target with
          | answered target result =>
              have hwatched : Target.offer scene.now record w =
                  .answered ⟨target, w.offers ++ [(record, result)]⟩ result := by
                show Watched.offer scene.now record w = _
                simp [Watched.offer, hoffer]
              simp only [act, hfound, hwatched]
              exact .offer record i rest w target result hfound hoffer
          | begun target =>
              have hwatched : Target.offer scene.now record w = .begun ⟨target, w.offers⟩ := by
                show Watched.offer scene.now record w = _
                simp [Watched.offer, hoffer]
              simp only [act, hfound, hwatched]
              exact .begin record i rest w target hfound hoffer
          | notReady =>
              have hwatched : Target.offer scene.now record w = .notReady := by
                show Watched.offer scene.now record w = _
                simp [Watched.offer, hoffer]
              simp only [act, hfound, hwatched]
              exact .wait _

theorem targets_stepped {w w' : Worker Job} {scene scene' : Scene (Watched H)}
    (h : Worker.Stepped act w scene w' scene') :
    scene'.targets = scene.targets ∨
      ∃ (i : Nat) (record : Record) (watched after : Watched H),
        scene.targets[i]? = some watched ∧ Offered scene.now record watched after ∧
          scene'.targets = scene.targets.set i after := by
  cases h with
  | take job rest free popped => exact .inl rfl
  | stop rest free popped => exact .inl rfl
  | goOn job job' scene' busy left =>
      have hact := jobStep_act job scene
      rw [left] at hact
      cases hact with
      | dispatch draft base => exact .inl rfl
      | skip record i rest missing => exact .inl rfl
      | offer record i rest watched target result found reply =>
          exact .inr ⟨i, record, watched, _, found, .answered target result reply, rfl⟩
      | begin record i rest watched target found reply =>
          exact .inr ⟨i, record, watched, _, found, .begun target reply, rfl⟩
  | finish job scene' busy finished =>
      have hact := jobStep_act job scene
      rw [finished] at hact
      cases hact with
      | delivered record => exact .inl rfl
      | pass ticket => exact .inl rfl
  | crash job scene' busy panicked =>
      have hact := jobStep_act job scene
      rw [panicked] at hact
      cases hact

def completed (origin : Origin) (entry : Draft × Fields) : Record :=
  entry.1.complete origin entry.2

def copies (i : Nat) (sent : Record × List Nat) : List Record :=
  List.replicate (sent.2.count i) sent.1

/-- What a step of the worker has sent out, and what the targets were offered in it. -/
structure Worked (sent : List (Record × List Nat)) (w : Worker Job) (scene : Scene (Watched H))
    (w' : Worker Job) (scene' : Scene (Watched H)) : Prop where
  origin : scene'.origin = scene.origin
  jobs : w'.jobs <:+ w.jobs
  order : (undispatched w).map (completed scene.origin) =
    sent.map Prod.fst ++ (undispatched w').map (completed scene.origin)
  offers : ∀ i target', scene'.targets[i]? = some target' → ∃ target,
    scene.targets[i]? = some target ∧
      target'.offered ++ owed i w' = target.offered ++ owed i w ++ sent.flatMap (copies i)

section Hand

variable {w : Worker Job}

private theorem owed_of_deliver {record : Record} {rest : List Nat}
    (h : w.activity = .busy (.deliver record rest)) (i : Nat) :
    owed i w = List.replicate (rest.count i) record := by
  simp [owed, h]

theorem owed_eq_nil (h : ∀ record rest, w.activity ≠ .busy (.deliver record rest)) (i : Nat) :
    owed i w = [] := by
  unfold owed
  split
  · exact absurd ‹_› (h _ _)
  · rfl

private theorem undispatched_of_busy {job : Job} (h : w.activity = .busy job) :
    undispatched w = job.draft?.toList ++ w.jobs.filterMap Job.draft? := by
  rw [undispatched, Worker.pending_of_busy h]
  cases hdraft : job.draft? <;> simp [hdraft]

private theorem undispatched_of_free (h : ∀ job, w.activity ≠ .busy job) :
    undispatched w = w.jobs.filterMap Job.draft? := by
  rw [undispatched, Worker.pending_of_free h]

end Hand

omit [Target H] in
/-- A step in which no record is on its way. -/
theorem worked_quiet {w w' : Worker Job} {scene scene' : Scene (Watched H)}
    (horigin : scene'.origin = scene.origin) (hjobs : w'.jobs <:+ w.jobs)
    (hdrafts : undispatched w' = undispatched w) (htargets : scene'.targets = scene.targets)
    (howed : ∀ i, owed i w' = owed i w) : Worked [] w scene w' scene' where
  origin := horigin
  jobs := hjobs
  order := by rw [hdrafts]; rfl
  offers := by
    intro i target htarget
    rw [htargets] at htarget
    exact ⟨target, htarget, by rw [howed]; simp⟩

theorem worked_of_stepped {w w' : Worker Job} {scene scene' : Scene (Watched H)}
    (hfresh : ∀ record rest, .deliver record rest ∉ w.jobs)
    (h : Worker.Stepped act w scene w' scene') :
    Worked (sending w scene) w scene w' scene' := by
  cases h with
  | take job rest free popped =>
      have hjobs := Worker.jobs_of_pop?_run popped (.busy job)
      have hdeliver : ∀ record rest, job ≠ .deliver record rest := by
        rintro record rest rfl
        exact hfresh record rest (hjobs ▸ List.mem_cons_self)
      simp only [sending, free]
      refine worked_quiet rfl ⟨[job], hjobs.symm⟩ ?_ rfl fun i => ?_
      · rw [undispatched_of_busy rfl, undispatched_of_free (by simp [free]), hjobs]
        cases hdraft : job.draft? <;> simp [hdraft]
      · rw [owed_eq_nil (by simpa using hdeliver), owed_eq_nil (by simp [free])]
  | stop rest free popped =>
      have hjobs := Worker.jobs_of_pop?_stop popped .stopped
      simp only [sending, free]
      refine worked_quiet rfl ⟨[], hjobs.symm⟩ ?_ rfl fun i => ?_
      · rw [undispatched_of_free (by simp), undispatched_of_free (by simp [free]), hjobs]
      · rw [owed_eq_nil (by simp), owed_eq_nil (by simp [free])]
  | goOn job job' scene' busy left =>
      have hact := jobStep_act job scene
      rw [left] at hact
      cases hact with
      | dispatch draft fields =>
          simp only [sending, busy]
          refine ⟨rfl, List.suffix_refl _, ?_, fun i target htarget => ⟨target, htarget, ?_⟩⟩
          · rw [undispatched_of_busy busy, undispatched_of_busy rfl]
            rfl
          · rw [owed_of_deliver rfl, owed_eq_nil (by simp [busy])]
            simp [copies]
      | skip record place rest missing =>
          simp only [sending, busy]
          refine ⟨rfl, List.suffix_refl _, ?_, fun i target htarget => ⟨target, htarget, ?_⟩⟩
          · rw [undispatched_of_busy busy, undispatched_of_busy rfl]
            rfl
          · have hne : place ≠ i := by
              rintro rfl
              rw [missing] at htarget
              cases htarget
            rw [owed_of_deliver rfl, owed_of_deliver busy, List.count_cons_of_ne hne]
            simp
      | begin record place rest target after found reply =>
          simp only [sending, busy]
          refine ⟨rfl, List.suffix_refl _, ?_, fun i target' htarget' => ?_⟩
          · rw [undispatched_of_busy busy, undispatched_of_busy rfl]
            rfl
          · rw [owed_of_deliver rfl, owed_of_deliver busy]
            by_cases hplace : place = i
            · subst hplace
              rw [List.getElem?_set_self (List.getElem?_eq_some_iff.mp found).1] at htarget'
              obtain rfl := Option.some.inj htarget'
              exact ⟨target, found, by simp [Watched.offered]⟩
            · rw [List.getElem?_set_ne hplace] at htarget'
              exact ⟨target', htarget', by simp⟩
      | offer record place rest target after result found reply =>
          simp only [sending, busy]
          refine ⟨rfl, List.suffix_refl _, ?_, fun i target' htarget' => ?_⟩
          · rw [undispatched_of_busy busy, undispatched_of_busy rfl]
            rfl
          · rw [owed_of_deliver rfl, owed_of_deliver busy]
            by_cases hplace : place = i
            · subst hplace
              rw [List.getElem?_set_self (List.getElem?_eq_some_iff.mp found).1] at htarget'
              obtain rfl := Option.some.inj htarget'
              exact ⟨target, found, by simp [Watched.offered, List.replicate_succ]⟩
            · rw [List.getElem?_set_ne hplace] at htarget'
              exact ⟨target', htarget', by simp [List.count_cons_of_ne hplace]⟩
  | finish job scene' busy finished =>
      have hact := jobStep_act job scene
      rw [finished] at hact
      cases hact with
      | delivered record =>
          simp only [sending, busy]
          refine worked_quiet rfl (List.suffix_refl _) ?_ rfl fun i => ?_
          · rw [undispatched_of_free (by simp), undispatched_of_busy busy]
            rfl
          · rw [owed_eq_nil (by simp), owed_of_deliver busy]
            simp
      | pass ticket =>
          simp only [sending, busy]
          refine worked_quiet rfl (List.suffix_refl _) ?_ rfl fun i => ?_
          · rw [undispatched_of_free (by simp), undispatched_of_busy busy]
            rfl
          · rw [owed_eq_nil (by simp), owed_eq_nil (by simp [busy])]
  | crash job scene' busy panicked =>
      have hact := jobStep_act job scene
      rw [panicked] at hact
      cases hact

/-- While a draft is at hand, the worker can go on. -/
theorem sending_eq_nil {d : Dispatcher (Watched H)} (h : d.work? = none) :
    sending d.worker d.scene = [] := by
  unfold sending
  split
  · rename_i draft base hbusy
    simp [work?, Worker.step?, hbusy, act] at h
  · rfl

private theorem handedIn_eq_nil {s : Threads (Shared (Watched H)) Point} {i : Nat} {move : Move}
    (h : ∀ point, s.points[i]? = some point → callStep move point s.shared = none) :
    handedIn (.caller i move : Turn ω) s = [] := by
  cases move with
  | log now draft =>
      have hbusy : s.points[i]? ≠ some .idle := fun hidle => nomatch h .idle hidle
      simp [handedIn, hbusy]
  | _ => rfl

namespace Chronicle

inductive Advanced (own : ω → H → H) (c c' : Chronicle H) : Prop
  | rest (same : c' = c)
  | call (i : Nat) (move : Move) (point point' : Point) (job : Option Job)
      (standing : c.threads.points[i]? = some point)
      (moved : CallStep c.threads.shared move point point' c'.threads.shared)
      (called : Called job c.dispatcher c'.dispatcher)
      (points : c'.threads.points = c.threads.points.set i point')
      (taken : c'.threads.shared.taken =
        c.threads.shared.taken ++ job.toList.filterMap Job.draft?)
      (admitted : c'.admitted = c.admitted ++ job.toList.filterMap Job.draft?)
      (dispatched : c'.dispatched = c.dispatched)
  | work (stepped : Worker.Stepped act c.dispatcher.worker c.dispatcher.scene c'.dispatcher.worker
        c'.dispatcher.scene)
      (threads : c'.threads =
        { c.threads with shared := { c.threads.shared with dispatcher := c'.dispatcher } })
      (tickets : c'.dispatcher.tickets = c.dispatcher.tickets)
      (admitted : c'.admitted = c.admitted)
      (dispatched : c'.dispatched = c.dispatched ++ sending c.dispatcher.worker c.dispatcher.scene)
  | alone (i : Nat) (deed : ω)
      (same : c' = { c with threads := { c.threads with shared := { c.threads.shared with
        dispatcher := c.dispatcher.updateTarget i (.own own deed) } } })

private theorem advanced_caller {c : Chronicle H} (hserving : c.dispatcher.worker.Serving)
    (own : ω → H → H) (i : Nat) (move : Move) : Advanced own c (c.step own (.caller i move)) := by
  rcases c.threads.moves_or_stuck callStep i move with
    ⟨point, point', shared', hpoint, hact, hstep⟩ | ⟨hstuck, hstay⟩
  · have hthreads : (c.step own (.caller i move)).threads =
        ⟨shared', c.threads.points.set i point'⟩ := hstep
    obtain ⟨job, hcalled, htaken, hdrafts⟩ := called_of_callStep (ω := ω) hserving hpoint hact
    refine .call i move point point' job hpoint ?_ ?_ ?_ ?_ ?_ (List.append_nil _)
    · rw [hthreads]
      exact callStep_cases hact
    · rw [dispatcher, dispatcher, hthreads]
      exact hcalled
    · rw [hthreads]
    · rw [hthreads]
      exact htaken
    · rw [hdrafts]
      rfl
  · refine .rest ?_
    have hthreads : (c.step own (.caller i move)).threads = c.threads := hstay
    simp only [step] at hthreads
    simp [step, hthreads, handedIn_eq_nil hstuck, sentOut]

private theorem advanced_worker (own : ω → H → H) (c : Chronicle H) :
    Advanced own c (c.step own .worker) := by
  cases hwork : c.threads.shared.dispatcher.work? with
  | none =>
      refine .rest ?_
      simp [step, Turn.take, hwork, handedIn, sentOut, sending_eq_nil hwork]
  | some d =>
      have hthreads : (c.step own .worker).threads =
          { c.threads with shared := { c.threads.shared with dispatcher := d } } := by
        simp [step, Turn.take, hwork]
      have hdispatcher : (c.step own .worker).dispatcher = d := by
        rw [dispatcher, hthreads]
      obtain ⟨⟨worker, scene⟩, hstep, rfl⟩ := Option.map_eq_some_iff.mp hwork
      refine .work ?_ ?_ ?_ (List.append_nil _) rfl
      · rw [hdispatcher]
        exact Worker.stepped_of_step? hstep
      · rw [hdispatcher]
        exact hthreads
      · rw [hdispatcher]
        rfl

theorem advanced_step {c : Chronicle H} (hserving : c.dispatcher.worker.Serving)
    (own : ω → H → H) (turn : Turn ω) : Advanced own c (c.step own turn) := by
  cases turn with
  | caller i move => exact advanced_caller hserving own i move
  | worker => exact advanced_worker own c
  | target i deed =>
      refine .alone i deed ?_
      simp [step, Turn.take, handedIn, sentOut, dispatcher]

structure Kept (origin : Origin) (c : Chronicle H) : Prop where
  home : c.dispatcher.scene.origin = origin
  serving : c.dispatcher.worker.Serving
  fresh : ∀ record rest, .deliver record rest ∉ c.dispatcher.worker.jobs
  taken : c.threads.shared.taken = c.admitted
  order : c.dispatched.map Prod.fst ++ (undispatched c.dispatcher.worker).map (completed origin) =
    c.admitted.map (completed origin)
  offers : ∀ i w, c.dispatcher.targets[i]? = some w →
    w.offered ++ owed i c.dispatcher.worker = c.dispatched.flatMap (copies i)

omit [Target H] in
theorem Kept.length_le {origin : Origin} {c : Chronicle H} (h : c.Kept origin) :
    c.dispatched.length ≤ c.admitted.length := by
  have horder := congrArg List.length h.order
  rw [List.length_append, List.length_map, List.length_map, List.length_map] at horder
  exact horder ▸ Nat.le_add_right _ _

omit [Target H] in
theorem kept_start (origin : Origin) (targets : List H) (capacity now callers : Nat) :
    (start origin targets capacity now callers).Kept origin where
  home := rfl
  serving := Worker.serving_new
  fresh := by simp [start, dispatcher, Threads.start, Shared.new, onScene, new, Worker.new,
    Worker.jobs]
  taken := rfl
  order := rfl
  offers := by
    intro i w hw
    have hw' : (targets.map Watched.of)[i]? = some w := hw
    rw [List.getElem?_map] at hw'
    obtain ⟨target, -, rfl⟩ := Option.map_eq_some_iff.mp hw'
    rfl

omit [Target H] in
private theorem Kept.called {origin : Origin} {c c' : Chronicle H} (h : c.Kept origin)
    {job : Option Job} (called : Called job c.dispatcher c'.dispatcher)
    (htaken : c'.threads.shared.taken = c.threads.shared.taken ++ job.toList.filterMap Job.draft?)
    (hadmitted : c'.admitted = c.admitted ++ job.toList.filterMap Job.draft?)
    (hdispatched : c'.dispatched = c.dispatched) : c'.Kept origin where
  home := called.origin.trans h.home
  serving := called.serving h.serving
  fresh := by
    intro record rest hmem
    rcases called.mem_jobs hmem with hold | hnew
    · exact h.fresh record rest hold
    · exact called.fresh record rest hnew
  taken := by rw [htaken, h.taken, hadmitted]
  order := by
    rw [hdispatched, called.undispatched, hadmitted, List.map_append, ← List.append_assoc, h.order,
      List.map_append]
  offers := by
    intro i w' hw'
    obtain ⟨w, hw, hsame⟩ := called.offered hw'
    rw [hsame, called.owed, hdispatched]
    exact h.offers i w hw

private theorem Kept.worked {origin : Origin} {c c' : Chronicle H} (h : c.Kept origin)
    (stepped : Worker.Stepped act c.dispatcher.worker c.dispatcher.scene c'.dispatcher.worker
      c'.dispatcher.scene)
    (htaken : c'.threads.shared.taken = c.threads.shared.taken)
    (hadmitted : c'.admitted = c.admitted)
    (hdispatched : c'.dispatched = c.dispatched ++ sending c.dispatcher.worker c.dispatcher.scene) :
    c'.Kept origin := by
  have worked := worked_of_stepped h.fresh stepped
  refine ⟨worked.origin.trans h.home, h.serving.step stepped, ?_, ?_, ?_, ?_⟩
  · exact fun record rest hmem => h.fresh record rest (worked.jobs.mem hmem)
  · rw [htaken, h.taken, hadmitted]
  · have horder := worked.order
    rw [h.home] at horder
    rw [hdispatched, hadmitted, List.map_append, List.append_assoc, ← horder, h.order]
  · intro i w' hw'
    obtain ⟨w, hw, hsame⟩ := worked.offers i w' hw'
    rw [hsame, h.offers i w hw, hdispatched, List.flatMap_append]

theorem Kept.step {origin : Origin} {c : Chronicle H} (h : c.Kept origin) (own : ω → H → H)
    (turn : Turn ω) : (c.step own turn).Kept origin := by
  generalize hnext : c.step own turn = c'
  cases hnext ▸ advanced_step h.serving own turn with
  | rest same => exact same ▸ h
  | call i move point point' job standing moved called points taken admitted dispatched =>
      exact h.called called taken admitted dispatched
  | work stepped threads tickets admitted dispatched =>
      exact h.worked stepped (congrArg (·.shared.taken) threads) admitted dispatched
  | alone i deed same =>
      have hcalled : Called none c.dispatcher c'.dispatcher := by
        rw [same]
        exact called_updateTarget fun _ _ => rfl
      rw [same] at hcalled ⊢
      exact h.called hcalled (List.append_nil _).symm (List.append_nil _).symm rfl

theorem kept_run {origin : Origin} {c : Chronicle H} (h : c.Kept origin) (own : ω → H → H)
    (turns : List (Turn ω)) : (c.run own turns).Kept origin :=
  run_induction (fun _ turn hkept => hkept.step own turn) turns h

end Chronicle

end LogShipping.Dispatcher
