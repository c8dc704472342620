import LogShipping.Proofs.Dispatcher.Targets

namespace LogShipping.Dispatcher

variable {H ω : Type} [Target H]

/-- What a step of the worker does to the row of jobs that are at hand or wait. -/
inductive RowStep (w : Worker Job) (scene : Scene (Watched H)) (w' : Worker Job)
    (scene' : Scene (Watched H)) : Prop
  | still (row : w'.pending = w.pending) (quiet : sending w scene = [])
      (reached : scene'.reached = scene.reached)
  | dispatch (draft : Draft) (base : Fields) (rest : List Job)
      (row : w.pending = .dispatch draft base :: rest)
      (row' : w'.pending =
        .deliver (draft.complete scene.origin base) scene.registered :: rest)
      (sent : sending w scene = [(draft.complete scene.origin base, scene.registered)])
      (reached : scene'.reached = scene.reached)
  | deliver (record : Record) (places places' : List Nat) (rest : List Job)
      (row : w.pending = .deliver record places :: rest)
      (row' : w'.pending = .deliver record places' :: rest) (quiet : sending w scene = [])
      (reached : scene'.reached = scene.reached)
  | delivered (record : Record) (rest : List Job)
      (row : w.pending = .deliver record [] :: rest) (row' : w'.pending = rest)
      (quiet : sending w scene = []) (reached : scene'.reached = scene.reached)
  | pass (ticket : Nat) (rest : List Job) (row : w.pending = .barrier ticket :: rest)
      (row' : w'.pending = rest) (quiet : sending w scene = [])
      (reached : scene'.reached = scene.reached ++ [ticket]) (free : w'.activity = .idle)

theorem rowStep_of_stepped {w w' : Worker Job} {scene scene' : Scene (Watched H)}
    (h : Worker.Stepped act w scene w' scene') : RowStep w scene w' scene' := by
  cases h with
  | take job rest free popped =>
      refine .still ?_ (by simp [sending, free]) rfl
      rw [Worker.pending_of_busy rfl, Worker.pending_of_free (by simp [free]),
        Worker.jobs_of_pop?_run popped (.busy job)]
  | stop rest free popped =>
      refine .still ?_ (by simp [sending, free]) rfl
      rw [Worker.pending_of_free (by simp), Worker.pending_of_free (by simp [free]),
        Worker.jobs_of_pop?_stop popped .stopped]
  | goOn job job' scene' busy left =>
      have hact := jobStep_act job scene
      rw [left] at hact
      cases hact with
      | dispatch draft base =>
          exact .dispatch draft base w.jobs (Worker.pending_of_busy busy)
            (Worker.pending_of_busy rfl) (by simp [sending, busy]) rfl
      | skip record i rest missing =>
          exact .deliver record (i :: rest) rest w.jobs (Worker.pending_of_busy busy)
            (Worker.pending_of_busy rfl) (by simp [sending, busy]) rfl
      | offer record i rest watched target result found reply =>
          exact .deliver record (i :: rest) rest w.jobs (Worker.pending_of_busy busy)
            (Worker.pending_of_busy rfl) (by simp [sending, busy]) rfl
      | begin record i rest watched target found reply =>
          exact .deliver record (i :: rest) (i :: rest) w.jobs (Worker.pending_of_busy busy)
            (Worker.pending_of_busy rfl) (by simp [sending, busy]) rfl
  | finish job scene' busy finished =>
      have hact := jobStep_act job scene
      rw [finished] at hact
      cases hact with
      | delivered record =>
          exact .delivered record w.jobs (Worker.pending_of_busy busy)
            (Worker.pending_of_free (by simp)) (by simp [sending, busy]) rfl
      | pass ticket =>
          exact .pass ticket w.jobs (Worker.pending_of_busy busy)
            (Worker.pending_of_free (by simp)) (by simp [sending, busy]) rfl rfl
  | crash job scene' busy panicked =>
      have hact := jobStep_act job scene
      rw [panicked] at hact
      cases hact

omit [Target H] in
private theorem Called.pending {job : Option Job} {d d' : Dispatcher (Watched H)}
    (h : Called job d d') : d'.worker.pending = d.worker.pending ++ job.toList := by
  rw [h.worker]
  cases job with
  | none => simp
  | some job => exact Worker.pending_submit job d.worker

namespace Chronicle

/-- The first `promised` drafts have been offered wherever they had to be. -/
structure Delivered (promised : Nat) (c : Chronicle H) : Prop where
  sent : promised ≤ c.dispatched.length
  offered : ∀ i w, c.dispatcher.targets[i]? = some w →
    (c.dispatched.take promised).flatMap (copies i) <+: w.offered

/-- The barrier is pending, and no draft of the first `promised` is behind it. -/
def Awaits (ticket promised : Nat) (c : Chronicle H) : Prop :=
  ∃ ahead behind, c.dispatcher.worker.pending = ahead ++ .barrier ticket :: behind ∧
    promised ≤ c.dispatched.length + (ahead.filterMap Job.draft?).length

/-- Every barrier has one place: among those reached, or in the row of jobs. -/
def InOrder (c : Chronicle H) : Prop :=
  c.dispatcher.scene.reached ++ c.dispatcher.worker.pending.filterMap Job.ticket? =
    List.range c.dispatcher.tickets

theorem InOrder.advanced {own : ω → H → H} {c c' : Chronicle H} (h : c.InOrder)
    (hadvanced : Advanced own c c') : c'.InOrder := by
  unfold InOrder at h ⊢
  cases hadvanced with
  | rest same => rw [same, h]
  | call i move point point' job standing moved called points taken admitted dispatched =>
      rw [called.reached, called.pending, called.tickets, List.filterMap_append,
        ← List.append_assoc, h]
  | work stepped threads tickets admitted dispatched =>
      rw [tickets, ← h]
      cases rowStep_of_stepped stepped with
      | still row quiet reached => rw [row, reached]
      | dispatch draft base rest row row' sent reached =>
          rw [row, row', reached]
          rfl
      | deliver record places places' rest row row' quiet reached =>
          rw [row, row', reached]
          rfl
      | delivered record rest row row' quiet reached =>
          rw [row, row', reached]
          rfl
      | pass ticket rest row row' quiet reached free =>
          rw [row, row', reached, List.append_assoc]
          rfl
  | alone i deed same =>
      rw [same]
      exact h

omit [Target H] in
/-- Once a barrier is pending no longer, all that was ahead of it has been offered. -/
theorem Awaits.worked {origin : Origin} {c c' : Chronicle H} {ticket promised : Nat}
    (h : c.Awaits ticket promised) (hkept : c'.Kept origin)
    (hrow : RowStep c.dispatcher.worker c.dispatcher.scene c'.dispatcher.worker
      c'.dispatcher.scene)
    (hdispatched : c'.dispatched = c.dispatched ++ sending c.dispatcher.worker c.dispatcher.scene) :
    c'.Awaits ticket promised ∨ c'.Delivered promised := by
  obtain ⟨ahead, behind, hsplit, hpromised⟩ := h
  cases hrow with
  | still row quiet reached =>
      refine .inl ⟨ahead, behind, row.trans hsplit, ?_⟩
      rwa [hdispatched, quiet, List.append_nil]
  | dispatch draft base rest row row' sent reached =>
      rw [row] at hsplit
      cases ahead with
      | nil => cases hsplit
      | cons job ahead =>
          obtain ⟨rfl, rfl⟩ := List.cons.inj hsplit
          refine .inl ⟨_ :: ahead, behind, row', ?_⟩
          simp only [hdispatched, sent, List.length_append, List.filterMap_cons, Job.draft?,
            List.length_cons] at hpromised ⊢
          omega
  | deliver record places places' rest row row' quiet reached =>
      rw [row] at hsplit
      cases ahead with
      | nil => cases hsplit
      | cons job ahead =>
          obtain ⟨rfl, rfl⟩ := List.cons.inj hsplit
          refine .inl ⟨_ :: ahead, behind, row', ?_⟩
          rwa [hdispatched, quiet, List.append_nil]
  | delivered record rest row row' quiet reached =>
      rw [row] at hsplit
      cases ahead with
      | nil => cases hsplit
      | cons job ahead =>
          obtain ⟨rfl, rfl⟩ := List.cons.inj hsplit
          refine .inl ⟨ahead, behind, row', ?_⟩
          rwa [hdispatched, quiet, List.append_nil]
  | pass passed rest row row' quiet reached free =>
      rw [row] at hsplit
      rw [quiet, List.append_nil] at hdispatched
      cases ahead with
      | nil =>
          -- Between two jobs nothing is owed, so all that was sent out has been offered.
          have hsent : promised ≤ c'.dispatched.length := by
            rw [hdispatched]
            exact hpromised
          refine .inr ⟨hsent, fun i w hw => ?_⟩
          have hoffers := hkept.offers i w hw
          rw [owed_eq_nil (by simp [free]), List.append_nil] at hoffers
          refine ⟨(c'.dispatched.drop promised).flatMap (copies i), ?_⟩
          rw [hoffers, ← List.flatMap_append, List.take_append_drop]
      | cons job ahead =>
          obtain ⟨rfl, rfl⟩ := List.cons.inj hsplit
          refine .inl ⟨ahead, behind, row', ?_⟩
          rw [hdispatched]
          exact hpromised

theorem Awaits.advanced {own : ω → H → H} {origin : Origin} {c c' : Chronicle H}
    {ticket promised : Nat} (h : c.Awaits ticket promised) (hkept : c'.Kept origin)
    (hadvanced : Advanced own c c') : c'.Awaits ticket promised ∨ c'.Delivered promised := by
  cases hadvanced with
  | rest same => exact .inl (same ▸ h)
  | call i move point point' job standing moved called points taken admitted dispatched =>
      obtain ⟨ahead, behind, hsplit, hpromised⟩ := h
      refine .inl ⟨ahead, behind ++ job.toList, ?_, by rwa [dispatched]⟩
      rw [called.pending, hsplit]
      simp
  | work stepped threads tickets admitted dispatched =>
      exact h.worked hkept (rowStep_of_stepped stepped) dispatched
  | alone i deed same =>
      rw [same]
      exact .inl h

omit [Target H] in
theorem awaits_of_handedIn {origin : Origin} {c c' : Chronicle H} (h : c.Kept origin)
    {ticket : Nat} (hcalled : Called (some (.barrier ticket)) c.dispatcher c'.dispatcher)
    (hdispatched : c'.dispatched = c.dispatched) : c'.Awaits ticket c.admitted.length := by
  refine ⟨c.dispatcher.worker.pending, [], hcalled.pending, ?_⟩
  have horder := congrArg List.length h.order
  simp only [List.length_append, List.length_map, undispatched] at horder
  rw [hdispatched]
  exact Nat.le_of_eq horder.symm

theorem evolves_advanced {own : ω → H → H} {c c' : Chronicle H} (h : Advanced own c c') :
    Evolves own c.dispatcher.targets c'.dispatcher.targets := by
  cases h with
  | rest same =>
      rw [same]
      exact evolves_same _
  | call i move point point' job standing moved called points taken admitted dispatched =>
      exact evolves_callStep moved
  | work stepped threads tickets admitted dispatched => exact evolves_stepped stepped
  | alone i deed same =>
      rw [same]
      exact evolves_modify fun w _ => .alone deed

private theorem dispatched_grows {own : ω → H → H} {c c' : Chronicle H} (h : Advanced own c c') :
    c.dispatched <+: c'.dispatched := by
  cases h with
  | rest same => exact same ▸ List.prefix_rfl
  | call i move point point' job standing moved called points taken admitted dispatched =>
      exact dispatched ▸ List.prefix_rfl
  | work stepped threads tickets admitted dispatched =>
      exact dispatched ▸ List.prefix_append _ _
  | alone i deed same => exact same ▸ List.prefix_rfl

theorem Delivered.take_eq {own : ω → H → H} {c c' : Chronicle H} {promised : Nat}
    (h : c.Delivered promised) (hadvanced : Advanced own c c') :
    c'.dispatched.take promised = c.dispatched.take promised := by
  obtain ⟨more, hmore⟩ := dispatched_grows hadvanced
  rw [← hmore, List.take_append_of_le_length h.sent]

theorem Delivered.advanced {own : ω → H → H} {c c' : Chronicle H} {promised : Nat}
    (h : c.Delivered promised) (hadvanced : Advanced own c c') : c'.Delivered promised := by
  refine ⟨Nat.le_trans h.sent (dispatched_grows hadvanced).length_le, fun i w' hw' => ?_⟩
  obtain ⟨w, hw, hevolved⟩ := evolves_advanced hadvanced i w' hw'
  rw [h.take_eq hadvanced]
  exact (h.offered i w hw).trans (hevolved.offers_grow.map Prod.fst)

end Chronicle

end LogShipping.Dispatcher
