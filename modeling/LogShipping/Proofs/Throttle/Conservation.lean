import LogShipping.Proofs.Lists
import LogShipping.Proofs.Throttle.Moves

/-!
Between the counter and the reports no drop is lost, whatever the threads do and the clock says.

If every report is due at once and nobody flushes, then nothing is left over when all calls are over.
A thread that finds the interval taken by another one leaves without a report; but that other one
has still to take the drops, and takes those of the first with them.
-/

namespace LogShipping.Throttle

def Point.isLoaded : Point → Bool
  | taken _ count => 0 < count
  | flushing count => 0 < count
  | _ => true

structure Conserved (s : Threads Shared Point) : Prop where
  account : s.shared.throttle.Accounts s.shared.drops (s.shared.toldDrops + s.total Point.carried)
  loaded : ∀ point ∈ s.points, point.isLoaded
  told : ∀ report ∈ s.shared.reports, 0 < report.count

theorem conserved_start (interval now threads : Nat) :
    Conserved (.start (.new (.new interval now)) .idle threads) where
  account := by
    simpa [Threads.start, Threads.total, Shared.new, Shared.toldDrops, Point.carried] using
      accounts_new interval now
  loaded point hmem := by rw [List.eq_of_mem_replicate hmem]; rfl
  told report hmem := by cases hmem

private theorem toldDrops_tell (count : UInt64) (claim : Option Nat) (s : Shared) :
    (s.tell ⟨count, claim⟩).toldDrops = s.toldDrops + count.toNat := by
  simp [Shared.tell, Shared.toldDrops]

section

variable {s : Threads Shared Point} {i : Nat} {move : Move} {point point' : Point} {shared' : Shared}

theorem Conserved.account_of_effect (h : Conserved s) (hpoint : s.points[i]? = some point)
    (heffect : Effect s.shared move point point' shared') :
    shared'.throttle.Accounts shared'.drops
      (shared'.toldDrops + ((s.points.set i point').map Point.carried).sum) := by
  have hcarried := sum_map_set Point.carried hpoint point'
  have haccount := h.account
  have hmoved {told : Nat} {t : Throttle} (ht : t.Accounts shared'.drops told)
      (heq : shared'.toldDrops + ((s.points.set i point').map Point.carried).sum = told) :
      t.Accounts shared'.drops
        (shared'.toldDrops + ((s.points.set i point').map Point.carried).sum) :=
    heq ▸ ht
  unfold Threads.total at haccount
  cases heffect with
  | recordDrop => exact hmoved haccount.recordDrop (congrArg _ hcarried)
  | drop => exact hmoved haccount.recordDrop (congrArg _ hcarried)
  | flush some =>
      refine hmoved haccount.takeDropped ?_
      simp only [Point.carried, Shared.takeDropped, Shared.toldDrops] at hcarried ⊢
      omega
  | take clock now some =>
      refine hmoved haccount.takeDropped ?_
      simp only [Point.carried, Shared.takeDropped, Shared.toldDrops] at hcarried ⊢
      omega
  | tell clock now count =>
      refine hmoved (haccount.of_dropped rfl) ?_
      rw [toldDrops_tell]
      simp only [Point.carried] at hcarried
      omega
  | tellFlush clock count =>
      refine hmoved (haccount.of_dropped rfl) ?_
      rw [toldDrops_tell]
      simp only [Point.carried] at hcarried
      omega
  | _ => exact hmoved (haccount.of_dropped rfl) (congrArg _ hcarried)

theorem isLoaded_of_effect (heffect : Effect s.shared move point point' shared') :
    point'.isLoaded = true := by
  cases heffect with
  | flush some => exact decide_eq_true some
  | take clock now some => exact decide_eq_true some
  | _ => rfl

theorem told_of_effect (htold : ∀ report ∈ s.shared.reports, 0 < report.count)
    (hloaded : point.isLoaded = true) (heffect : Effect s.shared move point point' shared') :
    ∀ report ∈ shared'.reports, 0 < report.count := by
  have htell {count : UInt64} {claim : Option Nat} (hcount : 0 < count) :
      ∀ report ∈ (s.shared.tell ⟨count, claim⟩).reports, 0 < report.count := by
    intro report hmem
    rcases List.mem_append.mp hmem with hold | hnew
    · exact htold report hold
    · rw [List.mem_singleton.mp hnew]
      exact hcount
  cases heffect with
  | tell clock now count => exact htell (of_decide_eq_true hloaded)
  | tellFlush clock count => exact htell (of_decide_eq_true hloaded)
  | _ => exact htold

theorem Conserved.of_effect (h : Conserved s) (hpoint : s.points[i]? = some point)
    (heffect : Effect s.shared move point point' shared') :
    Conserved ⟨shared', s.points.set i point'⟩ where
  account := h.account_of_effect hpoint heffect
  loaded other hmem := by
    rcases List.mem_or_eq_of_mem_set hmem with hold | rfl
    · exact h.loaded other hold
    · exact isLoaded_of_effect heffect
  told := told_of_effect h.told (h.loaded point (List.mem_of_getElem? hpoint)) heffect

end

theorem Conserved.step {s : Threads Shared Point} (h : Conserved s) (i : Nat) (move : Move) :
    Conserved (s.step act i move) := by
  rcases Threads.step_cases act i move s with hstay | ⟨point, point', shared', hpoint, hact, hstep⟩
  · rw [hstay]
    exact h
  · rw [hstep]
    exact h.of_effect hpoint (effect_of_act hact)

theorem conserved_reached (interval now threads : Nat) (schedule : List (Nat × Move)) :
    Conserved (reached interval now threads schedule) :=
  Threads.run_induction (fun _ i move h => h.step i move) schedule
    (conserved_start interval now threads)

def Move.asks : Move → Bool
  | report => true
  | drop => true
  | _ => false

def asksIn (i : Nat) : List (Nat × Move) → Threads Shared Point → Bool
  | [], _ => false
  | (j, move) :: rest, s =>
    (j == i && s.points[j]? == some .idle && move.asks) || asksIn i rest (s.step act j move)

/-- Whether each thread that counts a drop in these turns begins a report afterwards. -/
def areFollowed : List (Nat × Move) → Threads Shared Point → Bool
  | [], _ => true
  | (i, move) :: rest, s =>
    let next := s.step act i move
    (move != .recordDrop || s.points[i]? != some .idle || asksIn i rest next) &&
      areFollowed rest next

/-- The thread will take the drops, if the interval that it has seen is not taken by another. -/
def Point.isBound (lastReport : Nat) : Point → Bool
  | asked => true
  | timed _ => true
  | due _ seen => seen == lastReport
  | claimed _ => true
  | _ => false

def Point.isFlushing : Point → Bool
  | flushing _ => true
  | told => true
  | restarting _ => true
  | _ => false

/-- Every report is due, and no flush is under way. -/
structure Prompt (s : Threads Shared Point) : Prop where
  interval : s.shared.throttle.interval = 0
  unflushed : ∀ point ∈ s.points, point.isFlushing = false

/-- There are no drops, or a thread is bound to take them. -/
def Backed (s : Threads Shared Point) : Prop :=
  s.shared.throttle.dropped = 0 ∨
    ∃ point ∈ s.points, point.isBound s.shared.throttle.lastReport = true

theorem prompt_start (now threads : Nat) :
    Prompt (.start (.new (.new 0 now)) .idle threads) where
  interval := Nat.zero_min _
  unflushed point hmem := by rw [List.eq_of_mem_replicate hmem]; rfl

theorem backed_start (interval now threads : Nat) :
    Backed (.start (.new (.new interval now)) .idle threads) :=
  .inl rfl

section

variable {s : Threads Shared Point} {i : Nat} {move : Move} {point point' : Point} {shared' : Shared}

theorem Prompt.of_effect (h : Prompt s) (hmove : move ≠ .flush) (hpoint : s.points[i]? = some point)
    (heffect : Effect s.shared move point point' shared') :
    Prompt ⟨shared', s.points.set i point'⟩ := by
  have hcalm := h.unflushed point (List.mem_of_getElem? hpoint)
  have hboth : shared'.throttle.interval = s.shared.throttle.interval ∧
      point'.isFlushing = false := by
    cases heffect with
    | flush some => exact absurd rfl hmove
    | flushNothing none => exact absurd rfl hmove
    | tellFlush clock count => cases hcalm
    | readAgain now => cases hcalm
    | restart clock now => cases hcalm
    | _ => exact ⟨rfl, rfl⟩
  refine ⟨hboth.1.trans h.interval, ?_⟩
  intro other hmem
  rcases List.mem_or_eq_of_mem_set hmem with hold | rfl
  · exact h.unflushed other hold
  · exact hboth.2

private theorem Backed.of_bound (hpoint : s.points[i]? = some point)
    (hbound : point'.isBound shared'.throttle.lastReport = true) :
    Backed ⟨shared', s.points.set i point'⟩ :=
  .inr ⟨point', List.mem_set (List.getElem?_eq_some_iff.mp hpoint).1 point', hbound⟩

private theorem Backed.of_unbound (h : Backed s) (hpoint : s.points[i]? = some point)
    (hfree : point.isBound s.shared.throttle.lastReport = false)
    (hsame : shared'.throttle = s.shared.throttle) :
    Backed ⟨shared', s.points.set i point'⟩ := by
  rcases h with hnone | ⟨other, hmem, hbound⟩
  · exact .inl ((congrArg dropped hsame).trans hnone)
  · obtain ⟨j, hj⟩ := List.mem_iff_getElem?.mp hmem
    have hne : i ≠ j := by
      rintro rfl
      rw [Option.some.inj (hpoint.symm.trans hj), hbound] at hfree
      cases hfree
    refine .inr ⟨other, List.mem_of_getElem? ((List.getElem?_set_ne hne).trans hj), ?_⟩
    rw [hsame]
    exact hbound

theorem Backed.of_effect (h : Backed s) (hprompt : Prompt s) (hmove : move ≠ .recordDrop)
    (hpoint : s.points[i]? = some point) (heffect : Effect s.shared move point point' shared') :
    Backed ⟨shared', s.points.set i point'⟩ := by
  have hcalm := hprompt.unflushed point (List.mem_of_getElem? hpoint)
  cases heffect with
  | recordDrop => exact absurd rfl hmove
  | report => exact .of_bound hpoint rfl
  | drop => exact .of_bound hpoint rfl
  | flush some => exact .inl rfl
  | flushNothing none => exact .inl none
  | read now => exact .of_bound hpoint rfl
  | findDue clock now due => exact .of_bound hpoint (beq_self_eq_true _)
  | findEarly clock now early => simp [hprompt.interval] at early
  | claim clock now => exact .of_bound hpoint rfl
  | miss clock now seen overtaken =>
      -- whoever took the interval meanwhile is bound, and it is not this thread
      exact h.of_unbound hpoint (beq_false_of_ne overtaken.symm) rfl
  | take clock now some => exact .inl rfl
  | takeNothing clock now none => exact .inl none
  | tell clock now count => exact h.of_unbound hpoint rfl rfl
  | tellFlush clock count => cases hcalm
  | readAgain now => cases hcalm
  | restart clock now => cases hcalm

end

private theorem act_of_asks {move : Move} (h : move.asks = true) (s : Shared) :
    ∃ shared', act move .idle s = some (.asked, shared') := by
  cases move with
  | report => exact ⟨s, rfl⟩
  | drop => exact ⟨s.recordDrop, rfl⟩
  | _ => cases h

private theorem Backed.turn {s : Threads Shared Point} {i : Nat} {move : Move}
    {rest : List (Nat × Move)} (hprompt : Prompt s)
    (h : Backed s ∨ ∃ j, asksIn j ((i, move) :: rest) s = true)
    (hfollowed : areFollowed ((i, move) :: rest) s = true) (hmove : move ≠ .flush) : Prompt
    (s.step act i move) ∧
      (Backed (s.step act i move) ∨ ∃ j, asksIn j rest (s.step act i move) = true) := by
  simp only [areFollowed, Bool.and_eq_true, Bool.or_eq_true, bne_iff_ne, ne_eq] at hfollowed
  simp only [asksIn, Bool.or_eq_true, Bool.and_eq_true, beq_iff_eq] at h
  rcases Threads.moves_or_stuck act i move s with
    ⟨point, point', shared', hpoint, hact, hstep⟩ | ⟨hstuck, hstep⟩
  · have heffect := effect_of_act hact
    have hprompt' := hprompt.of_effect hmove hpoint heffect
    rw [hstep] at hfollowed h ⊢
    refine ⟨hprompt', ?_⟩
    rcases h with hbacked | ⟨j, ⟨⟨-, hidle⟩, hasks⟩ | hlater⟩
    · -- a counted drop may find no thread bound to take it, but its own begins a report later
      by_cases hdrop : move = .recordDrop
      · have hidle : s.points[i]? = some .idle := by
          subst hdrop
          cases heffect
          exact hpoint
        rcases hfollowed.1 with (hother | hbusy) | hlater
        · exact absurd hdrop hother
        · exact absurd hidle hbusy
        · exact .inr ⟨i, hlater⟩
      · exact .inl (hbacked.of_effect hprompt hdrop hpoint heffect)
    · obtain ⟨asked, hasked⟩ := act_of_asks hasks s.shared
      obtain rfl : point = .idle := Option.some.inj (hpoint.symm.trans hidle)
      obtain ⟨rfl, rfl⟩ := Prod.mk.inj (Option.some.inj (hact.symm.trans hasked))
      exact .inl (.of_bound hpoint rfl)
    · exact .inr ⟨j, hlater⟩
  · rw [hstep] at h ⊢
    refine ⟨hprompt, ?_⟩
    rcases h with hbacked | ⟨j, ⟨⟨-, hidle⟩, hasks⟩ | hlater⟩
    · exact .inl hbacked
    · obtain ⟨asked, hasked⟩ := act_of_asks hasks s.shared
      rw [hstuck .idle hidle] at hasked
      cases hasked
    · exact .inr ⟨j, hlater⟩

theorem Backed.run {schedule : List (Nat × Move)} {s : Threads Shared Point} (hprompt : Prompt s)
    (h : Backed s ∨ ∃ j, asksIn j schedule s = true) (hfollowed : areFollowed schedule s = true)
    (hmoves : ∀ turn ∈ schedule, turn.2 ≠ .flush) : Backed (s.run act schedule) := by
  -- while the drops are not backed, a thread that has yet to move is going to begin a report
  induction schedule generalizing s with
  | nil =>
      rcases h with hbacked | ⟨j, hnever⟩
      · exact hbacked
      · cases hnever
  | cons turn rest ih =>
      obtain ⟨i, move⟩ := turn
      simp only [List.mem_cons, forall_eq_or_imp] at hmoves
      obtain ⟨hprompt', h'⟩ := Backed.turn hprompt h hfollowed hmoves.1
      exact ih hprompt' h' (Bool.and_eq_true_iff.mp hfollowed).2 hmoves.2

private theorem Backed.dropped_of_idle {s : Threads Shared Point} (h : Backed s)
    (hidle : ∀ point ∈ s.points, point = .idle) : s.shared.throttle.dropped = 0 := by
  rcases h with hnone | ⟨point, hmem, hbound⟩
  · exact hnone
  · rw [hidle point hmem] at hbound
    cases hbound

/-- What has been counted is what has been told, what threads carry to a report, and what is still
counted; and no report is about nothing. When every report is due, nobody flushes, and each thread
that counts a drop begins a report afterwards, then nothing is left once all calls are over. -/
theorem drops_conserved (interval now threads : Nat) (schedule : List (Nat × Move)) :
    let s := reached interval now threads schedule
    (s.shared.drops < UInt64.size →
      s.shared.drops =
        s.shared.toldDrops + s.total Point.carried + s.shared.throttle.dropped.toNat) ∧
      (∀ report ∈ s.shared.reports, 0 < report.count) ∧
      (interval = 0 → (∀ turn ∈ schedule, turn.2 ≠ .flush) →
        areFollowed schedule (.start (.new (.new interval now)) .idle threads) = true →
        (∀ point ∈ s.points, point = .idle) → s.shared.throttle.dropped = 0) := by
  intro s
  have hconserved : Conserved s := conserved_reached interval now threads schedule
  refine ⟨hconserved.account.exact, hconserved.told, ?_⟩
  rintro rfl hmoves hfollowed hidle
  have hbacked : Backed s :=
    Backed.run (prompt_start now threads) (.inl (backed_start 0 now threads)) hfollowed hmoves
  exact hbacked.dropped_of_idle hidle

/-- Both threads see the same interval, and the second loses it to the first, which reports for
both. -/
theorem drops_conserved_lost_claim :
    let schedule : List (Nat × Move) :=
      [(0, .drop), (0, .resume 7), (0, .resume 7), (1, .recordDrop), (1, .report), (1, .resume 9),
        (1, .resume 9), (0, .resume 7), (1, .resume 9), (0, .resume 7), (0, .resume 7)]
    let s := reached 0 5 2 schedule
    (∀ turn ∈ schedule, turn.2 ≠ .flush) ∧
      areFollowed schedule (.start (.new (.new 0 5)) .idle 2) = true ∧
      (∀ point ∈ s.points, point = .idle) ∧ s.shared.reports = [⟨2, some 7⟩] ∧
      s.shared.drops = 2 ∧ s.shared.throttle.dropped = 0 := by
  intro schedule s
  have hmoves : ∀ turn ∈ schedule, turn.2 ≠ .flush := by decide
  have hfollowed : areFollowed schedule (.start (.new (.new 0 5)) .idle 2) = true := by decide
  have hidle : ∀ point ∈ s.points, point = .idle := by decide
  have hfew : s.shared.drops < UInt64.size := by decide
  have hlaw := drops_conserved 0 5 2 schedule
  refine ⟨hmoves, hfollowed, hidle, by decide, ?_, hlaw.2.2 rfl hmoves hfollowed hidle⟩
  rw [hlaw.1 hfew]
  decide

end LogShipping.Throttle
