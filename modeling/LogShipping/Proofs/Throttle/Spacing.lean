import LogShipping.Proofs.Lists
import LogShipping.Proofs.Throttle.Moves
import Mathlib.Data.List.Perm.Subperm

/-!
How far apart reports are. The time of the last report is written by a report that takes the
interval, and by a flush that starts it again. A report takes the interval only if nobody has written
since it looked; a flush does not look, and writes a time that it has read a while ago. So it can set
the time back behind a report given meanwhile, and then the next one comes too early. Nothing else
brings two reports closer than the interval.
-/

namespace LogShipping.Throttle

open List (Sublist)

inductive Mark where
  | claim (now : Nat)
  | restart (now : Nat)
  deriving DecidableEq

def Mark.claim? : Mark → Option Nat
  | claim now => some now
  | restart _ => none

def Point.mark? (move : Move) (s : Shared) (point : Point) : Option Mark :=
  match move, point with
  | .resume _, due now seen => if s.throttle.lastReport = seen then some (.claim now) else none
  | .resume _, restarting now => some (.restart now)
  | _, _ => none

def mark? (i : Nat) (move : Move) (s : Threads Shared Point) : Option Mark :=
  s.points[i]?.bind (Point.mark? move s.shared)

def marks : List (Nat × Move) → Threads Shared Point → List Mark
  | [], _ => []
  | (i, move) :: rest, s => (mark? i move s).toList ++ marks rest (s.step act i move)

/-- Each claim comes an interval after the time that it finds, at least. -/
def Spaced (interval : Nat) : Nat → List Mark → Prop
  | _, [] => True
  | last, .claim now :: rest => last + interval ≤ now ∧ Spaced interval now rest
  | _, .restart now :: rest => Spaced interval now rest

private theorem Spaced.beyond {interval bound last : Nat} {ms : List Mark}
    (h : Spaced interval last ms) (hlast : bound ≤ last)
    (hrestarts : ∀ t, .restart t ∈ ms → bound ≤ t) {c : Nat} (hclaim : .claim c ∈ ms) :
    bound + interval ≤ c := by
  induction ms generalizing last with
  | nil => cases hclaim
  | cons head rest ih =>
      have hrest : ∀ t, .restart t ∈ rest → bound ≤ t := fun t hmem =>
        hrestarts t (List.mem_cons_of_mem head hmem)
      cases head with
      | claim now =>
          obtain ⟨hnow, hspaced⟩ := h
          rcases List.mem_cons.mp hclaim with hhead | htail
          · cases hhead
            omega
          · exact ih hspaced (by omega) hrest htail
      | restart now =>
          rcases List.mem_cons.mp hclaim with hhead | htail
          · cases hhead
          · exact ih h (hrestarts now List.mem_cons_self) hrest htail

private theorem Spaced.pairwise {interval last : Nat} {ms : List Mark} (h : Spaced interval last ms)
    (hrestarts : ∀ c t, Sublist [.claim c, .restart t] ms → c ≤ t) :
    (ms.filterMap Mark.claim?).Pairwise (fun a b => a + interval ≤ b) := by
  induction ms generalizing last with
  | nil => exact .nil
  | cons head rest ih =>
      have hrest : ∀ c t, Sublist [.claim c, .restart t] rest → c ≤ t := fun c t hsub =>
        hrestarts c t (hsub.cons head)
      cases head with
      | restart now => exact ih h hrest
      | claim now =>
          refine List.pairwise_cons.mpr ⟨?_, ih h.2 hrest⟩
          intro c hmem
          obtain ⟨mark, hmark, hclaim⟩ := List.mem_filterMap.mp hmem
          cases mark with
          | restart t => cases hclaim
          | claim c' =>
              cases hclaim
              refine h.2.beyond (Nat.le_refl now) ?_ hmark
              intro t ht
              exact hrestarts now t ((List.singleton_sublist.mpr ht).cons_cons (.claim now))

/-- What threads know of the clock, and of the time that they have looked at. -/
structure Timely (span : Nat) (s : Threads Shared Point) : Prop where
  interval : s.shared.throttle.interval = span
  timed : ∀ now, .timed now ∈ s.points → now ∈ s.shared.readings
  due : ∀ now seen, .due now seen ∈ s.points → now ∈ s.shared.readings ∧ seen + span ≤ now

theorem timely_start (interval now threads : Nat) :
    Timely (new interval now).interval (.start (.new (.new interval now)) .idle threads) where
  interval := rfl
  timed t hmem := by cases List.eq_of_mem_replicate hmem
  due t seen hmem := by cases List.eq_of_mem_replicate hmem

section

variable {s : Threads Shared Point} {i : Nat} {move : Move} {point point' : Point} {shared' : Shared}

theorem readings_of_effect (h : Effect s.shared move point point' shared') :
    s.shared.readings <+: shared'.readings := by
  cases h with
  | read now => exact List.prefix_append _ _
  | readAgain now => exact List.prefix_append _ _
  | _ => exact List.prefix_rfl

theorem Timely.of_effect {span : Nat} (h : Timely span s) (hpos : 0 < span)
    (hpoint : s.points[i]? = some point) (heffect : Effect s.shared move point point' shared') :
    Timely span ⟨shared', s.points.set i point'⟩ := by
  have hkept {now : Nat} (hmem : now ∈ s.shared.readings) : now ∈ shared'.readings :=
    (readings_of_effect heffect).subset hmem
  have hsame : shared'.throttle.interval = s.shared.throttle.interval := by
    cases heffect <;> rfl
  refine ⟨hsame.trans h.interval, ?_, ?_⟩
  · intro now hmem
    rcases List.mem_or_eq_of_mem_set hmem with hold | hnew
    · exact hkept (h.timed now hold)
    · subst hnew
      cases heffect
      exact List.mem_append_right _ (List.mem_singleton_self _)
  · intro now seen hmem
    rcases List.mem_or_eq_of_mem_set hmem with hold | hnew
    · exact ⟨hkept (h.due now seen hold).1, (h.due now seen hold).2⟩
    · subst hnew
      cases heffect with
      | findDue clock now due =>
          refine ⟨h.timed now (List.mem_of_getElem? hpoint), ?_⟩
          rw [h.interval] at due
          omega

end

theorem Timely.step {span : Nat} {s : Threads Shared Point} (h : Timely span s) (hpos : 0 < span)
    (i : Nat) (move : Move) : Timely span (s.step act i move) := by
  rcases Threads.step_cases act i move s with hstay | ⟨point, point', shared', hpoint, hact, hstep⟩
  · rw [hstay]
    exact h
  · rw [hstep]
    exact h.of_effect hpos hpoint (effect_of_act hact)

theorem readings_step (i : Nat) (move : Move) (s : Threads Shared Point) :
    s.shared.readings <+: (s.step act i move).shared.readings := by
  rcases Threads.step_cases act i move s with hstay | ⟨point, point', shared', -, hact, hstep⟩
  · simp [hstay]
  · rw [hstep]
    exact readings_of_effect (effect_of_act hact)

theorem readings_run (schedule : List (Nat × Move)) (s : Threads Shared Point) :
    s.shared.readings <+: (s.run act schedule).shared.readings := by
  induction schedule generalizing s with
  | nil => exact List.prefix_rfl
  | cons turn rest ih => exact (readings_step turn.1 turn.2 s).trans (ih _)

theorem Timely.run {span : Nat} {s : Threads Shared Point} (h : Timely span s) (hpos : 0 < span)
    (schedule : List (Nat × Move)) : Timely span (s.run act schedule) :=
  Threads.run_induction (fun _ i move h => h.step hpos i move) schedule h

private theorem Point.mark?_of_stuck {move : Move} {s : Shared} {point : Point}
    (h : act move point s = none) : point.mark? move s = none := by
  cases move with
  | resume clock =>
      cases point with
      | due now seen =>
          have hother : s.throttle.lastReport ≠ seen := by
            intro hsame
            simp [act, claim?, hsame] at h
          exact if_neg hother
      | restarting now => cases h
      | _ => rfl
  | _ => rfl

theorem mark?_step (i : Nat) (move : Move) (s : Threads Shared Point) :
    mark? i move s = none ∧
        (s.step act i move).shared.throttle.lastReport = s.shared.throttle.lastReport ∨
      (∃ now, .due now s.shared.throttle.lastReport ∈ s.points ∧
        mark? i move s = some (.claim now) ∧
        (s.step act i move).shared.throttle.lastReport = now) ∨
      ∃ now, .restarting now ∈ s.points ∧ mark? i move s = some (.restart now) ∧
        (s.step act i move).shared.throttle.lastReport = now := by
  rcases Threads.moves_or_stuck act i move s with
    ⟨point, point', shared', hpoint, hact, hstep⟩ | ⟨hstuck, hstep⟩
  · rw [hstep]
    have hmark : mark? i move s = Point.mark? move s.shared point := by simp [mark?, hpoint]
    have hmem := List.mem_of_getElem? hpoint
    rw [hmark]
    cases effect_of_act hact with
    | claim clock now => exact .inr (.inl ⟨now, hmem, by simp [Point.mark?], rfl⟩)
    | restart clock now => exact .inr (.inr ⟨now, hmem, rfl, rfl⟩)
    | miss clock now seen overtaken => exact .inl ⟨by simp [Point.mark?, overtaken], rfl⟩
    | _ => exact .inl ⟨rfl, rfl⟩
  · refine .inl ⟨?_, by rw [hstep]⟩
    cases hpoint : s.points[i]? with
    | none => simp [mark?, hpoint]
    | some point =>
        simpa [mark?, hpoint] using Point.mark?_of_stuck (hstuck point hpoint)

private theorem Timely.spaced {span : Nat} {s : Threads Shared Point} (h : Timely span s)
    (hpos : 0 < span) (schedule : List (Nat × Move)) :
    Spaced span s.shared.throttle.lastReport (marks schedule s) := by
  induction schedule generalizing s with
  | nil => trivial
  | cons turn rest ih =>
      obtain ⟨i, move⟩ := turn
      have hrest := ih (h.step hpos i move)
      rcases mark?_step i move s with
        ⟨hnone, hlast⟩ | ⟨now, hmem, hclaim, hlast⟩ | ⟨now, -, hrestart, hlast⟩
      · rw [hlast] at hrest
        simpa [marks, hnone] using hrest
      · rw [hlast] at hrest
        simpa [marks, hclaim, Spaced] using ⟨(h.due now _ hmem).2, hrest⟩
      · rw [hlast] at hrest
        simpa [marks, hrestart, Spaced] using hrest

/-- Where the clock does not go backwards, a flush that sets the time back behind a claim had read the
clock before. -/
theorem restarting_of_mark {s : Threads Shared Point} {schedule : List (Nat × Move)} {c t : Nat}
    (hread : c ∈ s.shared.readings)
    (hclock : (s.run act schedule).shared.readings.Pairwise (· ≤ ·))
    (hmark : .restart t ∈ marks schedule s) (hback : t < c) : .restarting t ∈ s.points := by
  induction schedule generalizing s with
  | nil => cases hmark
  | cons turn rest ih =>
      obtain ⟨i, move⟩ := turn
      rcases List.mem_append.mp hmark with hnow | hlater
      · rcases mark?_step i move s with ⟨hmark, -⟩ | ⟨now, -, hmark, -⟩ | ⟨now, hmem, hmark, -⟩
        all_goals simp [hmark] at hnow
        exact hnow ▸ hmem
      · have hpoint := ih ((readings_step i move s).subset hread) hclock hlater
        have hsorted := hclock.sublist (readings_run rest (s.step act i move)).sublist
        rcases Threads.step_cases act i move s with
          hstay | ⟨point, point', shared', hat, hact, hstep⟩
        · rwa [hstay] at hpoint
        · rw [hstep] at hpoint hsorted
          rcases List.mem_or_eq_of_mem_set hpoint with hold | hnew
          · exact hold
          · subst hnew
            cases effect_of_act hact
            -- the clock has just said `t`, and has said `c` before
            have hlate := (List.pairwise_append.mp hsorted).2.2 c hread t (List.mem_singleton_self t)
            omega

private theorem split_of_marks {s : Threads Shared Point} {schedule : List (Nat × Move)} {c t : Nat}
    (hsub : Sublist [.claim c, .restart t] (marks schedule s)) :
    ∃ earlier i move later, schedule = earlier ++ (i, move) :: later ∧
      mark? i move (s.run act earlier) = some (.claim c) ∧
      .restart t ∈ marks later ((s.run act earlier).step act i move) := by
  induction schedule generalizing s with
  | nil => cases hsub
  | cons turn rest ih =>
      obtain ⟨i, move⟩ := turn
      have hskip (hrest : Sublist [.claim c, .restart t] (marks rest (s.step act i move))) :
          ∃ earlier j move' later, (i, move) :: rest = earlier ++ (j, move') :: later ∧
            mark? j move' (s.run act earlier) = some (.claim c) ∧
            .restart t ∈ marks later ((s.run act earlier).step act j move') := by
        obtain ⟨earlier, j, move', later, rfl, hclaim, hrestart⟩ := ih hrest
        exact ⟨(i, move) :: earlier, j, move', later, rfl, hclaim, hrestart⟩
      cases hmark : mark? i move s with
      | none => exact hskip (by simpa [marks, hmark] using hsub)
      | some mark =>
          rw [marks, hmark] at hsub
          cases hsub with
          | cons _ hrest => exact hskip hrest
          | cons_cons _ hrest =>
              exact ⟨[], i, move, rest, rfl, hmark, List.singleton_sublist.mp hrest⟩

def Point.claim? : Point → Option Nat
  | claimed now => some now
  | taken now _ => some now
  | _ => none

def Point.holds (c : Nat) (point : Point) : Nat :=
  if point.claim? = some c then 1 else 0

/-- How often the time `c` stands in a report, or with a thread that is to make one. -/
def claims (c : Nat) (s : Threads Shared Point) : Nat :=
  (s.shared.reports.filterMap Report.claim).count c + s.total (Point.holds c)

/-- A time comes to a thread with the mark that it writes, and from there to one report at most. -/
theorem claims_of_effect (c : Nat) {s shared' : Shared} {move : Move} {point point' : Point}
    (heffect : Effect s move point point' shared') :
    (shared'.reports.filterMap Report.claim).count c + point'.holds c ≤
      (s.reports.filterMap Report.claim).count c + point.holds c +
        ((point.mark? move s).toList.filterMap Mark.claim?).count c := by
  cases heffect with
  | claim clock now =>
      simp [Point.holds, Point.claim?, Point.mark?, Mark.claim?, Shared.restart,
        List.count_singleton]
  | tell clock now count =>
      simp [Point.holds, Point.claim?, Shared.tell, List.count_singleton]
  | tellFlush clock count => simp [Point.holds, Point.claim?, Shared.tell]
  | take clock now some => simp [Point.holds, Point.claim?, Shared.takeDropped]
  | _ => exact Nat.le_add_right_of_le (Nat.add_le_add_left (Nat.zero_le _) _)

theorem claims_step (c i : Nat) (move : Move) (s : Threads Shared Point) :
    claims c (s.step act i move) ≤
      claims c s + ((mark? i move s).toList.filterMap Mark.claim?).count c := by
  rcases Threads.step_cases act i move s with hstay | ⟨point, point', shared', hpoint, hact, hstep⟩
  · rw [hstay]
    exact Nat.le_add_right _ _
  · have hheld := sum_map_set (Point.holds c) hpoint point'
    have hclaims := claims_of_effect c (effect_of_act hact)
    have hmark : mark? i move s = Point.mark? move s.shared point := by simp [mark?, hpoint]
    rw [hstep, hmark]
    simp only [claims, Threads.total]
    omega

theorem claims_run (c : Nat) (schedule : List (Nat × Move)) (s : Threads Shared Point) :
    claims c (s.run act schedule) ≤
      claims c s + ((marks schedule s).filterMap Mark.claim?).count c := by
  induction schedule generalizing s with
  | nil => exact Nat.le_refl _
  | cons turn rest ih =>
      obtain ⟨i, move⟩ := turn
      have hturn := claims_step c i move s
      have hrest := ih (s.step act i move)
      rw [Threads.run_cons, marks, List.filterMap_append, List.count_append]
      omega

theorem claims_start (c interval now threads : Nat) :
    claims c (.start (.new (.new interval now)) .idle threads) = 0 := by
  simp [claims, Threads.start, Threads.total, Shared.new, Point.holds, Point.claim?]

private theorem subperm_marks (interval now threads : Nat) (schedule : List (Nat × Move)) :
    ((reached interval now threads schedule).shared.reports.filterMap Report.claim).Subperm
      ((marks schedule (.start (.new (.new interval now)) .idle threads)).filterMap
        Mark.claim?) := by
  -- two reports could stand for one claim, so the times are counted and not only looked for
  rw [List.subperm_ext_iff]
  intro c _
  have hrun := claims_run c schedule (.start (.new (.new interval now)) .idle threads)
  rw [claims_start] at hrun
  unfold claims at hrun
  unfold reached
  omega

def Apart (interval first second : Nat) : Prop :=
  first + interval ≤ second ∨ second + interval ≤ first

instance (interval first second : Nat) : Decidable (Apart interval first second) :=
  inferInstanceAs (Decidable (_ ∨ _))

private theorem pairwise_of_subperm {α : Type} {R : α → α → Prop} (hsymm : ∀ x y, R x y → R y x)
    {xs ys : List α} (hsub : xs.Subperm ys) (hys : ys.Pairwise R) : xs.Pairwise R := by
  obtain ⟨zs, hperm, hzs⟩ := hsub
  exact (hperm.pairwise_iff (hsymm _ _)).mp (hys.sublist hzs)

/-- The reports that take the interval are an interval apart, unless a flush sets the time of the last
report back. Such a flush has read the clock, at `t`, when a report takes the interval at the later
time `c`, and writes what it has read afterwards. -/
theorem reports_spaced (interval now threads : Nat) (schedule : List (Nat × Move))
    (hpos : 0 < interval)
    (hclock : (reached interval now threads schedule).shared.readings.Pairwise (· ≤ ·)) :
    ((reached interval now threads schedule).shared.reports.filterMap Report.claim).Pairwise
        (Apart (new interval now).interval) ∨
      ∃ earlier i move later c t, schedule = earlier ++ (i, move) :: later ∧
        mark? i move (reached interval now threads earlier) = some (.claim c) ∧ t < c ∧
        .restarting t ∈ (reached interval now threads earlier).points ∧
        .restart t ∈ marks later (reached interval now threads (earlier ++ [(i, move)])) := by
  let s₀ : Threads Shared Point := .start (.new (.new interval now)) .idle threads
  have hinterval : 0 < (new interval now).interval := Nat.lt_min.mpr ⟨hpos, by decide⟩
  have htimely : Timely (new interval now).interval s₀ := timely_start interval now threads
  -- the time of the last report grows from claim to claim, unless a restart undoes one
  by_cases hback : ∃ c t, Sublist [.claim c, .restart t] (marks schedule s₀) ∧ t < c
  · obtain ⟨c, t, hsub, hlt⟩ := hback
    obtain ⟨earlier, i, move, later, rfl, hclaim, hrestart⟩ := split_of_marks hsub
    have hsplit : (reached interval now threads (earlier ++ (i, move) :: later)) =
        (s₀.run act earlier).run act ((i, move) :: later) := Threads.run_append act _ _ s₀
    have hnext : reached interval now threads (earlier ++ [(i, move)]) =
        (s₀.run act earlier).step act i move := Threads.run_append act _ _ s₀
    rw [hsplit] at hclock
    have hread : c ∈ (s₀.run act earlier).shared.readings := by
      rcases mark?_step i move (s₀.run act earlier) with
        ⟨hmark, -⟩ | ⟨now, hmem, hmark, -⟩ | ⟨now, -, hmark, -⟩
      all_goals rw [hclaim] at hmark
      all_goals cases hmark
      exact ((htimely.run hinterval earlier).due _ _ hmem).1
    have hlater : .restart t ∈ marks ((i, move) :: later) (s₀.run act earlier) :=
      List.mem_append_right _ hrestart
    exact .inr ⟨earlier, i, move, later, c, t, rfl, hclaim, hlt,
      restarting_of_mark hread hclock hlater hlt, hnext ▸ hrestart⟩
  · left
    have hforward : ∀ c t, Sublist [.claim c, .restart t] (marks schedule s₀) → c ≤ t :=
      fun c t hsub => Nat.le_of_not_lt fun hlt => hback ⟨c, t, hsub, hlt⟩
    have hmarks := (htimely.spaced hinterval schedule).pairwise hforward
    exact pairwise_of_subperm (fun _ _ => Or.symm) (subperm_marks interval now threads schedule)
      (hmarks.imp Or.inl)

/-- The first thread flushes and reads the clock at 10. Before it writes that, the second one reports
at 12. So the third one finds the interval over at 15. -/
def overtakenFlush : List (Nat × Move) :=
  [(0, .recordDrop), (0, .flush), (0, .resume 10), (0, .resume 10),
    (1, .drop), (1, .resume 12), (1, .resume 12), (1, .resume 12), (1, .resume 12), (1, .resume 12),
    (0, .resume 12),
    (2, .drop), (2, .resume 15), (2, .resume 15), (2, .resume 15), (2, .resume 15), (2, .resume 15)]

/-- The reports are closer than the interval here, so the flush must be there. -/
theorem reports_spaced_overtaken :
    0 < 5 ∧ (reached 5 5 3 overtakenFlush).shared.readings.Pairwise (· ≤ ·) ∧
      ∃ earlier i move later c t, overtakenFlush = earlier ++ (i, move) :: later ∧
        mark? i move (reached 5 5 3 earlier) = some (.claim c) ∧ t < c ∧
        .restarting t ∈ (reached 5 5 3 earlier).points ∧
        .restart t ∈ marks later (reached 5 5 3 (earlier ++ [(i, move)])) := by
  have hclock : (reached 5 5 3 overtakenFlush).shared.readings.Pairwise (· ≤ ·) := by decide
  refine ⟨by decide, hclock, ?_⟩
  rcases reports_spaced 5 5 3 overtakenFlush (by decide) hclock with hapart | hflush
  · exact absurd hapart (by decide)
  · exact hflush

/-- The clock never goes backwards here, and two reports that take the interval of 5 lie 3 apart. -/
theorem reopened_by_flush :
    (reached 5 5 3 overtakenFlush).shared.readings = [10, 12, 15] ∧
      (reached 5 5 3 overtakenFlush).shared.reports =
        [⟨1, none⟩, ⟨1, some 12⟩, ⟨1, some 15⟩] ∧
      ¬((reached 5 5 3 overtakenFlush).shared.reports.filterMap Report.claim).Pairwise
        (Apart (new 5 5).interval) := by
  decide

end LogShipping.Throttle
