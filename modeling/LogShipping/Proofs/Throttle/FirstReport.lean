import LogShipping.Proofs.Throttle.Moves

/-!
The first report of a new throttle. The last report of a new throttle is put one interval back, so
that the first one is due at once; but no time lies before the epoch. Where the interval is longer
than the clock has run since then, the first report is withheld like any other.
-/

namespace LogShipping.Throttle

def Move.isQuiet : Move → Bool
  | recordDrop => true
  | resume _ => true
  | _ => false

/-- Nothing has been told, and every drop is still counted. `counted` of them were there when the
report began. -/
structure Untold (counted : Nat) (s : Shared) : Prop where
  reports : s.reports = []
  pending : s.throttle.dropped.toNat = s.drops
  grown : counted ≤ s.drops

/-- The report has the drops that were there when it began, and those that came before it took
them. -/
structure Carries (counted : Nat) (count : UInt64) (s : Shared) : Prop where
  all : counted ≤ count.toNat
  account : count.toNat + s.throttle.dropped.toNat = s.drops

/-- How far the only report has come that has begun. The time of the last report was `first` when
it began. -/
inductive Course (span first counted : Nat) (s : Shared) : Point → Prop
  | asked (untold : Untold counted s) (last : s.throttle.lastReport = first)
      (readings : s.readings = []) : Course span first counted s .asked
  | timed (now : Nat) (untold : Untold counted s) (last : s.throttle.lastReport = first)
      (readings : s.readings = [now]) : Course span first counted s (.timed now)
  | due (now : Nat) (untold : Untold counted s) (last : s.throttle.lastReport = first)
      (readings : s.readings = [now]) (due : span ≤ now - first) :
      Course span first counted s (.due now first)
  | claimed (now : Nat) (untold : Untold counted s) (readings : s.readings = [now])
      (due : span ≤ now - first) : Course span first counted s (.claimed now)
  | taken (now : Nat) (count : UInt64) (reports : s.reports = []) (carries : Carries counted count s)
      (readings : s.readings = [now]) (due : span ≤ now - first) :
      Course span first counted s (.taken now count)
  | told (now : Nat) (count : UInt64) (reports : s.reports = [⟨count, some now⟩])
      (carries : Carries counted count s) (readings : s.readings = [now])
      (due : span ≤ now - first) : Course span first counted s .idle
  | withheld (now : Nat) (untold : Untold counted s) (readings : s.readings = [now])
      (early : now - first < span) : Course span first counted s .idle

private theorem toNat_dropped_recordDrop {t : Throttle} (h : t.dropped.toNat + 1 < UInt64.size) :
    t.recordDrop.dropped.toNat = t.dropped.toNat + 1 :=
  (UInt64.toNat_add _ _).trans (Nat.mod_eq_of_lt h)

section

variable {span first counted : Nat} {s : Shared}

private theorem Untold.recordDrop (h : Untold counted s) (hfew : s.drops + 1 < UInt64.size) :
    Untold counted s.recordDrop where
  reports := h.reports
  pending := by
    have hpending := h.pending
    exact (toNat_dropped_recordDrop (by omega)).trans (congrArg (· + 1) hpending)
  grown := Nat.le_succ_of_le h.grown

private theorem Carries.recordDrop {count : UInt64} (h : Carries counted count s)
    (hfew : s.drops + 1 < UInt64.size) : Carries counted count s.recordDrop where
  all := h.all
  account := by
    have haccount := h.account
    have hword : s.throttle.recordDrop.dropped.toNat = s.throttle.dropped.toNat + 1 :=
      toNat_dropped_recordDrop (by omega)
    change count.toNat + s.throttle.recordDrop.dropped.toNat = s.drops + 1
    omega

private theorem Course.recordDrop {point : Point} (h : Course span first counted s point)
    (hfew : s.drops + 1 < UInt64.size) : Course span first counted s.recordDrop point := by
  cases h with
  | asked untold last readings => exact .asked (untold.recordDrop hfew) last readings
  | timed now untold last readings => exact .timed now (untold.recordDrop hfew) last readings
  | due now untold last readings due => exact .due now (untold.recordDrop hfew) last readings due
  | claimed now untold readings due => exact .claimed now (untold.recordDrop hfew) readings due
  | taken now count reports carries readings due =>
      exact .taken now count reports (carries.recordDrop hfew) readings due
  | told now count reports carries readings due =>
      exact .told now count reports (carries.recordDrop hfew) readings due
  | withheld now untold readings early => exact .withheld now (untold.recordDrop hfew) readings early

private theorem Course.move {move : Move} {point point' : Point} {s' : Shared}
    (h : Course span first counted s point) (hspan : s.throttle.interval = span)
    (hpos : 0 < counted) (hquiet : move.isQuiet = true) (heffect : Effect s move point point' s')
    (hfew : s'.drops < UInt64.size) : Course span first counted s' point' := by
  cases heffect with
  | recordDrop => exact h.recordDrop hfew
  | report => cases hquiet
  | drop => cases hquiet
  | flush some => cases hquiet
  | flushNothing none => cases hquiet
  | read now =>
      cases h with
      | asked untold last readings =>
          exact .timed now ⟨untold.reports, untold.pending, untold.grown⟩ last
            (by simp [Shared.read, readings])
  | findDue clock now due =>
      cases h with
      | timed _ untold last readings =>
          rw [hspan, last] at due
          rw [last]
          exact .due now untold last readings due
  | findEarly clock now early =>
      cases h with
      | timed _ untold last readings =>
          rw [hspan, last] at early
          exact .withheld now untold readings early
  | claim clock now =>
      generalize hseen : s.throttle.lastReport = seen at h
      cases h with
      | due _ untold last readings due =>
          exact .claimed now ⟨untold.reports, untold.pending, untold.grown⟩ readings due
  | miss clock now seen overtaken =>
      cases h with
      | due _ untold last readings due => exact absurd last overtaken
  | take clock now some =>
      cases h with
      | claimed _ untold readings due =>
          have hpending := untold.pending
          refine .taken now _ untold.reports ⟨hpending ▸ untold.grown, ?_⟩ readings due
          exact hpending
  | takeNothing clock now none =>
      cases h with
      | claimed _ untold readings due =>
          have hnone : s.drops = 0 := by simpa [none] using untold.pending.symm
          have hgrown := untold.grown
          omega
  | tell clock now count =>
      cases h with
      | taken _ _ reports carries readings due =>
          exact .told now count (by simp [Shared.tell, reports]) ⟨carries.all, carries.account⟩
            readings due
  | tellFlush clock count => cases h
  | readAgain now => cases h
  | restart clock now => cases h

end

structure Fresh (span first : Nat) (s : Threads Shared Point) : Prop where
  interval : s.shared.throttle.interval = span
  last : s.shared.throttle.lastReport = first
  readings : s.shared.readings = []
  untold : Untold 0 s.shared
  idle : ∀ point ∈ s.points, point = .idle

structure Sole (span first counted i : Nat) (s : Threads Shared Point) : Prop where
  interval : s.shared.throttle.interval = span
  others : ∀ j point, j ≠ i → s.points[j]? = some point → point = .idle
  course : ∃ point, s.points[i]? = some point ∧ Course span first counted s.shared point

theorem drops_of_effect {move : Move} {point point' : Point} {s s' : Shared}
    (h : Effect s move point point' s') : s.drops ≤ s'.drops := by
  cases h with
  | recordDrop => exact Nat.le_succ _
  | drop => exact Nat.le_succ _
  | _ => exact Nat.le_refl _

theorem drops_step (i : Nat) (move : Move) (s : Threads Shared Point) :
    s.shared.drops ≤ (s.step act i move).shared.drops := by
  rcases Threads.step_cases act i move s with hstay | ⟨point, point', shared', -, hact, hstep⟩
  · exact Nat.le_of_eq (by rw [hstay])
  · rw [hstep]
    exact drops_of_effect (effect_of_act hact)

theorem drops_run (schedule : List (Nat × Move)) (s : Threads Shared Point) :
    s.shared.drops ≤ (s.run act schedule).shared.drops := by
  induction schedule generalizing s with
  | nil => exact Nat.le_refl _
  | cons turn rest ih => exact Nat.le_trans (drops_step turn.1 turn.2 s) (ih _)

private theorem run_of_quiet {P : Threads Shared Point → Prop}
    (keep : ∀ s i move, Move.isQuiet move = true →
      (s.step act i move).shared.drops < UInt64.size → P s → P (s.step act i move))
    {schedule : List (Nat × Move)} (hquiet : ∀ turn ∈ schedule, turn.2.isQuiet = true)
    {s : Threads Shared Point} (hfew : (s.run act schedule).shared.drops < UInt64.size) (h : P s) :
    P (s.run act schedule) := by
  induction schedule generalizing s with
  | nil => exact h
  | cons turn rest ih =>
      have hstep : (s.step act turn.1 turn.2).shared.drops < UInt64.size :=
        Nat.lt_of_le_of_lt (drops_run rest _) hfew
      exact ih (fun other hmem => hquiet other (List.mem_cons_of_mem _ hmem)) hfew
        (keep s turn.1 turn.2 (hquiet turn List.mem_cons_self) hstep h)

theorem interval_of_effect {move : Move} {point point' : Point} {s s' : Shared}
    (h : Effect s move point point' s') : s'.throttle.interval = s.throttle.interval := by
  cases h <;> rfl

private theorem eq_recordDrop_of_quiet {move : Move} {point' : Point} {s s' : Shared}
    (hquiet : move.isQuiet = true) (h : Effect s move .idle point' s') :
    point' = .idle ∧ s' = s.recordDrop := by
  cases h with
  | recordDrop => exact ⟨rfl, rfl⟩
  | report => cases hquiet
  | drop => cases hquiet
  | flush some => cases hquiet
  | flushNothing none => cases hquiet

section

variable {span first counted i : Nat} {s : Threads Shared Point}

theorem fresh_start (interval made threads : Nat) :
    Fresh (new interval made).interval (new interval made).lastReport
      (.start (.new (.new interval made)) .idle threads) where
  interval := rfl
  last := rfl
  readings := rfl
  untold := ⟨rfl, rfl, Nat.le_refl 0⟩
  idle _ hmem := List.eq_of_mem_replicate hmem

theorem Fresh.step (h : Fresh span first s) {j : Nat} {move : Move} (hquiet : move.isQuiet = true)
    (hfew : (s.step act j move).shared.drops < UInt64.size) :
    Fresh span first (s.step act j move) := by
  rcases Threads.step_cases act j move s with hstay | ⟨point, point', shared', hpoint, hact, hstep⟩
  · rwa [hstay]
  · rw [hstep] at hfew ⊢
    obtain rfl := h.idle point (List.mem_of_getElem? hpoint)
    obtain ⟨rfl, rfl⟩ := eq_recordDrop_of_quiet hquiet (effect_of_act hact)
    refine ⟨h.interval, h.last, h.readings, h.untold.recordDrop hfew, fun other hmem => ?_⟩
    exact (List.mem_or_eq_of_mem_set hmem).elim (h.idle other) id

private theorem Fresh.report (h : Fresh span first s) (hthread : i < s.points.length) :
    Sole span first s.shared.drops i (s.step act i .report) := by
  have hpoint : s.points[i]? = some .idle := by
    rw [List.getElem?_eq_getElem hthread, h.idle _ (List.getElem_mem hthread)]
  have hstep : s.step act i .report = ⟨s.shared, s.points.set i .asked⟩ := by
    simp [Threads.step, hpoint, act]
  rw [hstep]
  refine ⟨h.interval, fun j point hj hat => ?_, .asked, List.getElem?_set_self hthread, ?_⟩
  · rw [List.getElem?_set_ne hj.symm] at hat
    exact h.idle point (List.mem_of_getElem? hat)
  · exact .asked ⟨h.untold.reports, h.untold.pending, Nat.le_refl _⟩ h.last h.readings

theorem Sole.step (h : Sole span first counted i s) (hpos : 0 < counted) {j : Nat} {move : Move}
    (hquiet : move.isQuiet = true) (hfew : (s.step act j move).shared.drops < UInt64.size) :
    Sole span first counted i (s.step act j move) := by
  obtain ⟨own, hown, hcourse⟩ := h.course
  rcases Threads.step_cases act j move s with hstay | ⟨point, point', shared', hpoint, hact, hstep⟩
  · rwa [hstay]
  · rw [hstep] at hfew ⊢
    have heffect := effect_of_act hact
    have hinterval := (interval_of_effect heffect).trans h.interval
    by_cases hj : j = i
    · subst hj
      obtain rfl := Option.some.inj (hown.symm.trans hpoint)
      refine ⟨hinterval, fun k other hk hat => ?_, point', ?_, ?_⟩
      · exact h.others k other hk ((List.getElem?_set_ne hk.symm).symm.trans hat)
      · exact List.getElem?_set_self (List.getElem?_eq_some_iff.mp hpoint).1
      · exact hcourse.move h.interval hpos hquiet heffect hfew
    · obtain rfl := h.others j point hj hpoint
      obtain ⟨rfl, rfl⟩ := eq_recordDrop_of_quiet hquiet heffect
      refine ⟨hinterval, fun k other hk hat => ?_, own, ?_, hcourse.recordDrop hfew⟩
      · rcases List.mem_or_eq_of_mem_set (List.mem_of_getElem? hat) with hold | hnew
        · by_cases hkj : j = k
          · subst hkj
            rw [List.getElem?_set_self (List.getElem?_eq_some_iff.mp hpoint).1] at hat
            exact (Option.some.inj hat).symm
          · exact h.others k other hk ((List.getElem?_set_ne hkj).symm.trans hat)
        · exact hnew
      · exact (List.getElem?_set_ne hj).trans hown

end

/-- As seen from later clock readings, the last report of a new throttle lies an interval back just
when the clock has run for an interval since the epoch. -/
theorem interval_le_since_new {interval made now : Nat} (hclock : made ≤ now) :
    (new interval made).interval ≤ now - (new interval made).lastReport ↔
      min interval longestInterval ≤ now := by
  change min interval longestInterval ≤ now - (made - min interval longestInterval) ↔ _
  omega

/-- When the first report that begins at a new throttle is over, it has told all drops if the clock
has run for an interval since the epoch, and nothing otherwise. Drops that others count while it is
made are told with the rest or wait for the next report. -/
theorem first_report_exact (interval made threads i : Nat) (before during : List (Nat × Move))
    (hthread : i < threads) (hquiet : ∀ turn ∈ before ++ during, turn.2.isQuiet = true)
    (hdrops : 0 < (reached interval made threads before).shared.drops)
    (hfew : (reached interval made threads (before ++ (i, .report) :: during)).shared.drops <
      UInt64.size)
    (hover : (reached interval made threads (before ++ (i, .report) :: during)).points[i]? =
      some .idle) :
    let s := (reached interval made threads (before ++ (i, .report) :: during)).shared
    ∃ now, s.readings = [now] ∧ (made ≤ now →
      (min interval longestInterval ≤ now → ∃ count, s.reports = [⟨count, some now⟩] ∧
        (reached interval made threads before).shared.drops ≤ count.toNat ∧
        count.toNat + s.throttle.dropped.toNat = s.drops) ∧
      (now < min interval longestInterval → s.reports = [] ∧
        s.throttle.dropped.toNat = s.drops)) := by
  intro s
  let s₀ : Threads Shared Point := .start (.new (.new interval made)) .idle threads
  have hsplit : reached interval made threads (before ++ (i, .report) :: during) =
      ((s₀.run act before).step act i .report).run act during := Threads.run_append act _ _ s₀
  have hbefore : (s₀.run act before).shared.drops < UInt64.size := by
    have hstep := drops_step i .report (s₀.run act before)
    have hrun := drops_run during ((s₀.run act before).step act i .report)
    rw [hsplit] at hfew
    omega
  have hfresh : Fresh (new interval made).interval (new interval made).lastReport
      (s₀.run act before) :=
    run_of_quiet (fun _ _ _ hmove hroom h => h.step hmove hroom)
      (fun turn hmem => hquiet turn (List.mem_append_left _ hmem)) hbefore
      (fresh_start interval made threads)
  have hpoints : i < (s₀.run act before).points.length := by
    rw [Threads.length_points_run]
    exact List.length_replicate ▸ hthread
  rw [hsplit] at hfew hover
  obtain ⟨point, hpoint, hcourse⟩ :=
    (run_of_quiet (fun _ _ _ hmove hroom h => h.step hdrops hmove hroom)
      (fun turn hmem => hquiet turn (List.mem_append_right _ hmem)) hfew
      (hfresh.report hpoints)).course
  obtain rfl := Option.some.inj (hpoint.symm.trans hover)
  rw [← hsplit] at hcourse
  generalize hidle : Point.idle = point at hcourse
  cases hcourse with
  | told now count reports carries readings due =>
      refine ⟨now, readings, fun hclock => ⟨fun _ => ⟨count, reports, carries.all,
        carries.account⟩, fun hearly => ?_⟩⟩
      exact absurd ((interval_le_since_new hclock).mp due) (Nat.not_le.mpr hearly)
  | withheld now untold readings early =>
      refine ⟨now, readings, fun hclock => ⟨fun hlong => ?_, fun _ => ⟨untold.reports,
        untold.pending⟩⟩⟩
      exact absurd ((interval_le_since_new hclock).mpr hlong) (Nat.not_le.mpr early)
  | _ => cases hidle

/-- The clock has run for just an interval when the report looks, and another thread counts a drop
before the report takes them. -/
theorem first_report_exact_at_interval :
    let before : List (Nat × Move) := [(0, .recordDrop), (1, .recordDrop)]
    let during : List (Nat × Move) :=
      [(0, .resume 5), (0, .resume 5), (0, .resume 5), (1, .recordDrop), (0, .resume 5),
        (0, .resume 5), (1, .recordDrop)]
    let s := (reached 5 3 2 (before ++ (0, .report) :: during)).shared
    (new 5 3).lastReport = 0 ∧ s.drops = 4 ∧ ∃ count, s.reports = [⟨count, some 5⟩] ∧
      2 ≤ count.toNat ∧ count.toNat + s.throttle.dropped.toNat = 4 := by
  intro before during s
  obtain ⟨now, hreadings, hreport⟩ :=
    first_report_exact 5 3 2 0 before during (by decide) (by decide) (by decide) (by decide)
      (by decide)
  obtain rfl : 5 = now := by
    have hread : s.readings = [5] := by decide
    exact (List.cons.inj (hread.symm.trans hreadings)).1
  obtain ⟨count, hreports, hall, haccount⟩ := (hreport (by decide)).1 (by decide)
  exact ⟨by decide, by decide, count, hreports, hall, haccount⟩

/-- With the longest interval the first report tells nothing, though a drop has been counted and no
report has been made since the throttle is there. -/
theorem first_report_withheld :
    let schedule : List (Nat × Move) :=
      [(0, .recordDrop), (0, .report), (0, .resume 1765000000000), (0, .resume 1765000000000)]
    let s := reached longestInterval 1765000000000 1 schedule
    s.points = [.idle] ∧ s.shared.drops = 1 ∧ s.shared.readings = [1765000000000] ∧
      s.shared.reports = [] ∧ s.shared.throttle.dropped = 1 := by
  decide

end LogShipping.Throttle
