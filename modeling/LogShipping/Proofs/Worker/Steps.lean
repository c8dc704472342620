import LogShipping.Worker.History

namespace LogShipping

private theorem Backlog.counted_of_pop? {α : Type} {q rest : Backlog α} {item : α}
    (hpop : q.pop? = some (item, rest)) (h : q.counted = q.items) : rest.counted = rest.items := by
  obtain ⟨entries, size⟩ := q
  cases entries with
  | nil => simp [Backlog.pop?, Backlog.take?] at hpop
  | cons entry tail =>
      simp only [Backlog.pop?, Backlog.take?, Option.map_some, Option.some.injEq,
        Prod.mk.injEq] at hpop
      obtain ⟨-, rfl⟩ := hpop
      by_cases hcounted : entry.counted
      · simpa [Backlog.counted, Backlog.items, Backlog.discount, hcounted] using h
      · have hlength := congrArg List.length h
        have hle := List.length_filter_le Backlog.Entry.counted tail
        simp only [Backlog.counted, Backlog.items, List.length_map, List.filter_cons, hcounted,
          Bool.false_eq_true, if_false, List.length_cons] at hlength
        omega

namespace Worker

variable {J σ α : Type}

theorem jobs_submit (job : J) (w : Worker J) : (w.submit job).jobs = w.jobs ++ [job] := by
  simp [jobs, submit, Task.job?]

theorem pending_submit (job : J) (w : Worker J) : (w.submit job).pending = w.pending ++ [job] := by
  rw [pending, jobs_submit, ← List.append_assoc]
  rfl

theorem pending_of_busy {w : Worker J} {job : J} (h : w.activity = .busy job) :
    w.pending = job :: w.jobs := by
  simp [pending, hand, h]

theorem pending_of_free {w : Worker J} (h : ∀ job, w.activity ≠ .busy job) :
    w.pending = w.jobs := by
  have hhand : w.hand = [] := by
    unfold hand
    split
    · exact absurd ‹_› (h _)
    · rfl
  rw [pending, hhand, List.nil_append]

theorem trySubmit?_eq_some {limit : Nat} {job : J} {w w' : Worker J}
    (h : w.trySubmit? limit job = some w') : w.backlog.size < limit ∧ w' = w.submit job := by
  by_cases room : w.backlog.size < limit
  · rw [trySubmit?, Backlog.tryPush?_eq_push room] at h
    exact ⟨room, (Option.some.inj h).symm⟩
  · rw [trySubmit?, Backlog.tryPush?_eq_none (Nat.le_of_not_lt room)] at h
    cases h

theorem trySubmit?_eq_none {limit : Nat} {job : J} {w : Worker J}
    (h : w.trySubmit? limit job = none) : limit ≤ w.backlog.size := by
  refine Nat.le_of_not_lt fun room => ?_
  rw [trySubmit?, Backlog.tryPush?_eq_push room] at h
  cases h

theorem jobs_retire (w : Worker J) : w.retire.jobs = w.jobs := by
  simp [jobs, retire, Task.job?]

inductive Stepped (act : J → σ → Progress J σ) (w : Worker J) (scene : σ) :
    Worker J → σ → Prop
  | take (job : J) (rest : Backlog (Task J)) (free : w.activity = .idle)
      (popped : w.backlog.pop? = some (.run job, rest)) :
      Stepped act w scene ⟨rest, .busy job⟩ scene
  | stop (rest : Backlog (Task J)) (free : w.activity = .idle)
      (popped : w.backlog.pop? = some (.stop, rest)) : Stepped act w scene ⟨rest, .stopped⟩ scene
  | goOn (job job' : J) (scene' : σ) (busy : w.activity = .busy job)
      (left : act job scene = .left job' scene') :
      Stepped act w scene { w with activity := .busy job' } scene'
  | finish (job : J) (scene' : σ) (busy : w.activity = .busy job)
      (finished : act job scene = .finished scene') :
      Stepped act w scene { w with activity := .idle } scene'
  | crash (job : J) (scene' : σ) (busy : w.activity = .busy job)
      (panicked : act job scene = .panicked scene') :
      Stepped act w scene { w with activity := .crashed } scene'

private theorem stepped_of_take? {act : J → σ → Progress J σ} {w w' : Worker J} (scene : σ)
    (free : w.activity = .idle) (h : w.take? = some w') : Stepped act w scene w' scene := by
  unfold take? at h
  cases hpop : w.backlog.pop? with
  | none => simp [hpop] at h
  | some popped =>
      obtain ⟨task, rest⟩ := popped
      cases task with
      | run job =>
          simp only [hpop, Option.some.injEq] at h
          subst h
          exact .take job rest free hpop
      | stop =>
          simp only [hpop, Option.some.injEq] at h
          subst h
          exact .stop rest free hpop

theorem stepped_of_step? {act : J → σ → Progress J σ} {w w' : Worker J} {scene scene' : σ}
    (h : w.step? act scene = some (w', scene')) : Stepped act w scene w' scene' := by
  unfold step? at h
  cases hactivity : w.activity with
  | idle =>
      simp only [hactivity, Option.map_eq_some_iff, Prod.mk.injEq] at h
      obtain ⟨next, htake, rfl, rfl⟩ := h
      exact stepped_of_take? scene hactivity htake
  | busy job =>
      simp only [hactivity] at h
      cases hact : act job scene with
      | finished after =>
          simp only [hact, Option.some.injEq, Prod.mk.injEq] at h
          obtain ⟨rfl, rfl⟩ := h
          exact .finish job after hactivity hact
      | left rest after =>
          simp only [hact, Option.some.injEq, Prod.mk.injEq] at h
          obtain ⟨rfl, rfl⟩ := h
          exact .goOn job rest after hactivity hact
      | waiting => simp [hact] at h
      | panicked after =>
          simp only [hact, Option.some.injEq, Prod.mk.injEq] at h
          obtain ⟨rfl, rfl⟩ := h
          exact .crash job after hactivity hact
  | stopped => simp [hactivity] at h
  | crashed => simp [hactivity] at h

theorem jobs_of_pop?_run {w : Worker J} {job : J} {rest : Backlog (Task J)}
    (h : w.backlog.pop? = some (.run job, rest)) (activity : Activity J) :
    w.jobs = job :: (⟨rest, activity⟩ : Worker J).jobs := by
  simp [jobs, Backlog.items_pop? h, Task.job?]

theorem jobs_of_pop?_stop {w : Worker J} {rest : Backlog (Task J)}
    (h : w.backlog.pop? = some (.stop, rest)) (activity : Activity J) :
    w.jobs = (⟨rest, activity⟩ : Worker J).jobs := by
  rw [jobs, Backlog.items_pop? h]
  rfl

/-- A worker whose owner has not retired it. All that waits are jobs, and they all count. -/
structure Serving (w : Worker J) : Prop where
  awake : w.activity ≠ .stopped
  items : w.backlog.items = w.jobs.map .run
  counted : w.backlog.counted = w.backlog.items
  exact : w.backlog.Exact

inductive Retiring (w : Worker J) : Prop
  | serving (awake : w.activity ≠ .stopped) (items : w.backlog.items = w.jobs.map .run ++ [.stop])
  | stopped (asleep : w.activity = .stopped) (items : w.backlog.items = [])

theorem serving_new : (new : Worker J).Serving :=
  ⟨by simp [new], rfl, rfl, Backlog.exact_empty⟩

theorem Serving.size_eq {w : Worker J} (h : w.Serving) : w.backlog.size = w.jobs.length := by
  rw [h.exact, h.counted, h.items, List.length_map]

theorem Serving.submit {w : Worker J} (h : w.Serving) (job : J) : (w.submit job).Serving := by
  have hitems : (w.submit job).backlog.items = w.backlog.items ++ [.run job] :=
    Backlog.items_push _ _
  have hcounted : (w.submit job).backlog.counted = w.backlog.counted ++ [.run job] :=
    Backlog.counted_push _ _
  refine ⟨h.awake, ?_, ?_, h.exact.push _⟩
  · rw [hitems, jobs_submit, h.items, List.map_append]
    rfl
  · rw [hitems, hcounted, h.counted]

theorem Serving.retire {w : Worker J} (h : w.Serving) : w.retire.Retiring := by
  refine .serving h.awake ?_
  have hitems : w.retire.backlog.items = w.backlog.items ++ [.stop] := Backlog.items_push _ _
  rw [hitems, jobs_retire, h.items]

theorem Serving.step {act : J → σ → Progress J σ} {w w' : Worker J} {scene scene' : σ}
    (h : w.Serving) (hstep : Stepped act w scene w' scene') : w'.Serving := by
  have hitems := h.items
  cases hstep with
  | take job rest free popped =>
      refine ⟨by simp, ?_, Backlog.counted_of_pop? popped h.counted, h.exact.pop? popped⟩
      rw [Backlog.items_pop? popped, jobs_of_pop?_run popped (.busy job)] at hitems
      exact (List.cons.inj hitems).2
  | stop rest free popped =>
      rw [Backlog.items_pop? popped] at hitems
      have hstop : Task.stop ∈ w.jobs.map .run := by
        rw [← hitems]
        exact List.mem_cons_self
      simp at hstop
  | goOn job job' after busy left => exact ⟨by simp, hitems, h.counted, h.exact⟩
  | finish job after busy finished => exact ⟨by simp, hitems, h.counted, h.exact⟩
  | crash job after busy panicked => exact ⟨by simp, hitems, h.counted, h.exact⟩

theorem Retiring.step {act : J → σ → Progress J σ} {w w' : Worker J} {scene scene' : σ}
    (h : w.Retiring) (hstep : Stepped act w scene w' scene') : w'.Retiring := by
  cases h with
  | stopped asleep items => cases hstep <;> simp_all
  | serving awake items =>
      cases hstep with
      | take job rest free popped =>
          rw [Backlog.items_pop? popped, jobs_of_pop?_run popped (.busy job)] at items
          exact .serving (by simp) (List.cons.inj items).2
      | stop rest free popped =>
          rw [Backlog.items_pop? popped] at items
          cases hjobs : w.jobs with
          | nil =>
              rw [hjobs] at items
              exact .stopped rfl (List.cons.inj items).2
          | cons job others =>
              rw [hjobs] at items
              cases (List.cons.inj items).1
      | goOn job job' after busy left => exact .serving (by simp) items
      | finish job after busy finished => exact .serving (by simp) items
      | crash job after busy panicked => exact .serving (by simp) items

/-- When a retired worker has stopped, nothing is left to do. -/
theorem Retiring.jobs_of_stopped {w : Worker J} (h : w.Retiring)
    (hstopped : w.activity = .stopped) : w.jobs = [] := by
  cases h with
  | serving awake items => exact absurd hstopped awake
  | stopped asleep items =>
      rw [jobs, items]
      rfl

/-- What holds of the job at hand from the moment it is taken, and of every job that is over. -/
structure Follows (act : J → σ → Progress J σ) (Hand : J → σ → J → σ → Prop)
    (Done : Shift J σ → Prop) : Prop where
  start : ∀ job scene, Hand job scene job scene
  goOn : ∀ {job before now scene now' scene'}, Hand job before now scene →
    act now scene = .left now' scene' → Hand job before now' scene'
  finish : ∀ {job before now scene scene'}, Hand job before now scene →
    act now scene = .finished scene' → Done ⟨job, before, scene'⟩
  calm : ∀ job scene scene', act job scene ≠ .panicked scene'

theorem Follows.awake {act : J → σ → Progress J σ} {Hand : J → σ → J → σ → Prop}
    {Done : Shift J σ → Prop} (hfollows : Follows act Hand Done) {w w' : Worker J}
    {scene scene' : σ} (hstep : Stepped act w scene w' scene') : w'.activity ≠ .crashed := by
  cases hstep with
  | crash job after busy panicked => exact absurd panicked (hfollows.calm job scene scene')
  | take job rest free popped => simp
  | stop rest free popped => simp
  | goOn job job' after busy left => simp
  | finish job after busy finished => simp

structure History.Tells (Hand : J → σ → J → σ → Prop) (Done : Shift J σ → Prop) (w : Worker J)
    (scene : σ) (h : History J σ) : Prop where
  between : h.begun = none → ∀ job, w.activity ≠ .busy job
  hand : ∀ job before, h.begun = some (job, before) →
    ∃ now, w.activity = .busy now ∧ Hand job before now scene
  done : ∀ shift ∈ h.shifts, Done shift

namespace History

variable {act : J → σ → Progress J σ} {Hand : J → σ → J → σ → Prop} {Done : Shift J σ → Prop}

theorem tells_empty (scene : σ) : Tells Hand Done .new scene .empty :=
  ⟨by simp [new], by simp [empty], by simp [empty]⟩

theorem Tells.begun_of_busy {w : Worker J} {scene : σ} {h : History J σ}
    (htells : Tells Hand Done w scene h) {now : J} (busy : w.activity = .busy now) :
    ∃ job before, h.begun = some (job, before) ∧ Hand job before now scene := by
  cases hbegun : h.begun with
  | none => exact absurd busy (htells.between hbegun now)
  | some entry =>
      obtain ⟨job, before⟩ := entry
      obtain ⟨now', hbusy, hhand⟩ := htells.hand job before hbegun
      have hnow : now' = now := by simpa [hbusy] using busy
      subst hnow
      exact ⟨job, before, rfl, hhand⟩

theorem Tells.begun_of_free {w : Worker J} {scene : σ} {h : History J σ}
    (htells : Tells Hand Done w scene h) (free : ∀ job, w.activity ≠ .busy job) :
    h.begun = none := by
  cases hbegun : h.begun with
  | none => rfl
  | some entry =>
      obtain ⟨now, hbusy, -⟩ := htells.hand entry.1 entry.2 hbegun
      exact absurd hbusy (free now)

/-- What a step adds to the history: the job taken, the job finished, or nothing. -/
inductive Noted (w : Worker J) (h : History J σ) : Worker J → σ → History J σ → Prop
  | take (job : J) (rest : Backlog (Task J)) (scene : σ) (free : h.begun = none)
      (popped : w.backlog.pop? = some (.run job, rest)) :
      Noted w h ⟨rest, .busy job⟩ scene { h with begun := some (job, scene) }
  | finish (job : J) (before scene' : σ) (busy : h.begun = some (job, before)) :
      Noted w h { w with activity := .idle } scene' ⟨none, h.shifts ++ [⟨job, before, scene'⟩]⟩
  | rest (w' : Worker J) (scene' : σ) (same : w'.jobs = w.jobs) : Noted w h w' scene' h

theorem Tells.step (hfollows : Follows act Hand Done) {w w' : Worker J} {scene scene' : σ}
    {h : History J σ} (htells : Tells Hand Done w scene h) (hstep : Stepped act w scene w' scene') :
    Tells Hand Done w' scene' (h.next w' scene') ∧ Noted w h w' scene' (h.next w' scene') := by
  cases hstep with
  | take job rest free popped =>
      have hbegun := htells.begun_of_free (by simp [free])
      simp only [next, hbegun]
      refine ⟨⟨by simp, ?_, htells.done⟩, .take job rest scene hbegun popped⟩
      intro job' before heq
      simp only [Option.some.injEq, Prod.mk.injEq] at heq
      obtain ⟨rfl, rfl⟩ := heq
      exact ⟨job, rfl, hfollows.start job scene⟩
  | stop rest free popped =>
      have hbegun := htells.begun_of_free (by simp [free])
      simp only [next, hbegun]
      refine ⟨⟨by simp, ?_, htells.done⟩, .rest _ _ (jobs_of_pop?_stop popped .stopped).symm⟩
      intro job' before heq
      rw [hbegun] at heq
      cases heq
  | goOn now now' after busy left =>
      obtain ⟨job, before, hbegun, hhand⟩ := htells.begun_of_busy busy
      simp only [next, hbegun]
      refine ⟨⟨?_, ?_, htells.done⟩, .rest _ _ rfl⟩
      · intro hnone
        rw [hbegun] at hnone
        cases hnone
      · intro job' before' heq
        rw [hbegun] at heq
        simp only [Option.some.injEq, Prod.mk.injEq] at heq
        obtain ⟨rfl, rfl⟩ := heq
        exact ⟨now', rfl, hfollows.goOn hhand left⟩
  | finish now after busy finished =>
      obtain ⟨job, before, hbegun, hhand⟩ := htells.begun_of_busy busy
      simp only [next, hbegun]
      refine ⟨⟨by simp, by simp, ?_⟩, .finish job before scene' hbegun⟩
      intro shift hmem
      rcases List.mem_append.mp hmem with hold | hnew
      · exact htells.done shift hold
      · rw [List.mem_singleton.mp hnew]
        exact hfollows.finish hhand finished
  | crash now after busy panicked => exact absurd panicked (hfollows.calm now scene scene')

theorem Noted.row_eq {w w' : Worker J} {scene' : σ} {h h' : History J σ}
    (hnoted : Noted w h w' scene' h') : h'.row w' = h.row w := by
  cases hnoted with
  | take job rest scene free popped =>
      simp [row, free, jobs_of_pop?_run popped (.busy job)]
  | finish job before after busy =>
      simp [row, busy, jobs]
  | rest _ _ same => rw [row, row, same]

theorem row_retire (w : Worker J) (h : History J σ) : h.row w.retire = h.row w := by
  rw [row, row, jobs_retire]

theorem shifts_next (w : Worker J) (scene : σ) (h : History J σ) :
    h.shifts <+: (h.next w scene).shifts := by
  unfold next
  split
  · exact List.prefix_rfl
  · exact List.prefix_append _ _
  · exact List.prefix_rfl

/-- The owner may do what the job at hand does not notice. -/
theorem Tells.touch {w w' : Worker J} {scene scene' : σ} {h : History J σ}
    (htells : Tells Hand Done w scene h) (hactivity : w'.activity = w.activity)
    (hstable : ∀ job before now, Hand job before now scene → Hand job before now scene') :
    Tells Hand Done w' scene' h := by
  refine ⟨?_, ?_, htells.done⟩
  · rw [hactivity]
    exact htells.between
  · intro job before hbegun
    obtain ⟨now, hbusy, hhand⟩ := htells.hand job before hbegun
    exact ⟨now, hactivity.trans hbusy, hstable job before now hhand⟩

/-- The list in the scene is what the jobs finished have added to it, one after the other. -/
def Sums (f : σ → List α) (scene : σ) (h : History J σ) : Prop :=
  f (h.pause scene) = h.shifts.flatMap (Shift.gain f)

theorem Sums.step {f : σ → List α} (hgrows : ∀ shift, Done shift → f shift.before <+: f shift.after)
    {w w' : Worker J} {scene scene' : σ} {h : History J σ} (hsums : Sums f scene h)
    (hstep : Stepped act w scene w' scene') (hfollows : Follows act Hand Done)
    (htells : Tells Hand Done w scene h) : Sums f scene' (h.next w' scene') := by
  obtain ⟨htells', -⟩ := htells.step hfollows hstep
  unfold Sums at *
  cases hstep with
  | take job rest free popped =>
      have hbegun := htells.begun_of_free (by simp [free])
      simpa [next, hbegun, pause] using hsums
  | stop rest free popped =>
      have hbegun := htells.begun_of_free (by simp [free])
      simpa [next, hbegun, pause] using hsums
  | goOn now now' after busy left =>
      obtain ⟨job, before, hbegun, -⟩ := htells.begun_of_busy busy
      simpa [next, hbegun, pause] using hsums
  | finish now after busy finished =>
      obtain ⟨job, before, hbegun, hhand⟩ := htells.begun_of_busy busy
      have hdone := hgrows _ (hfollows.finish hhand finished)
      simp only [pause, hbegun, Option.map_some, Option.getD_some] at hsums
      simp only [next, hbegun, pause, Option.map_none, Option.getD_none, List.flatMap_append,
        List.flatMap_singleton, ← hsums, Shift.gain]
      exact (List.prefix_iff_eq_append.mp hdone).symm
  | crash now after busy panicked => exact absurd panicked (hfollows.calm now scene scene')

theorem Sums.touch {f : σ → List α} {scene scene' : σ} {h : History J σ} (hsums : Sums f scene h)
    (hsame : f scene' = f scene) : Sums f scene' h := by
  unfold Sums pause at *
  cases hbegun : h.begun with
  | none =>
      rw [hbegun] at hsums
      exact hsame.trans hsums
  | some entry =>
      rw [hbegun] at hsums
      exact hsums

end History

end Worker

end LogShipping
