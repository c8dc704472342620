import LogShipping.Proofs.Uplink.FlushSoundness
import LogShipping.Proofs.Uplink.Occupancy

/-!
How many barriers flushes can make. A barrier is made by a flush that holds the lock and finds the
counter of accepted messages elsewhere than at the mark of the barrier before. The counter does not
go back, so the marks increase, and in any stretch of a run there is at most one barrier more than
messages are counted.

While the shipper takes nothing, the messages counted are among those in the queue. There are no
more of them than may wait, however often flushes are tried.
-/

namespace LogShipping

namespace Uplink

/-! Points of callers, as weights. -/

def Point.hasLock : Point → Nat
  | .locked _ => 1
  | _ => 0

/-- It has read the mark of a barrier that is not yet the latest. -/
def Point.hasMark : Point → Nat
  | .making _ _ => 1
  | .made _ _ => 1
  | _ => 0

def Point.isMaking : Point → Nat
  | .making _ _ => 1
  | _ => 0

def Point.isCounting : Point → Nat
  | .stored _ => 1
  | _ => 0

def Point.mark? : Point → Option UInt64
  | .making accepted _ => some accepted
  | .made latest _ => some latest.acceptedAt
  | _ => none

private theorem Point.isMaking_le (point : Point) : point.isMaking ≤ point.hasMark := by
  cases point <;> simp [isMaking, hasMark]

private theorem Point.hasMark_of_mark? {point : Point} {mark : UInt64}
    (h : point.mark? = some mark) : point.hasMark = 1 := by
  cases point with
  | making accepted promised => rfl
  | made latest promised => rfl
  | _ => cases h

/-- Sums over the callers. -/
structure Metered (s : Threads Shared Point) : Prop where
  lock : s.total Point.hasLock + s.total Point.hasMark = s.shared.isLocked.toNat
  barriers : s.shared.marks.length = s.shared.uplink.barriers + s.total Point.isMaking
  order : s.shared.order.length = s.shared.accepted.length + s.total Point.isCounting

theorem metered_start (settings : Settings) (now threads : Nat) :
    Metered (.start (.new settings now) .idle threads) := by
  refine ⟨?_, ?_, ?_⟩
  · simp [Threads.start, Threads.total, Shared.new, Point.hasLock, Point.hasMark]
  · simp [Threads.start, Threads.total, Shared.new, new, Point.isMaking]
  · simp [Threads.start, Threads.total, Shared.new, Point.isCounting]

theorem Metered.of_effect {s : Threads Shared Point} (h : Metered s) {i : Nat} {move : Move}
    {point point' : Point} (hpoint : s.points[i]? = some point) {shared' : Shared}
    (heffect : Effect s.shared move point point' shared') :
    Metered ⟨shared', s.points.set i point'⟩ := by
  have hlocks := sum_map_set Point.hasLock hpoint point'
  have hmarks := sum_map_set Point.hasMark hpoint point'
  have hmaking := sum_map_set Point.isMaking hpoint point'
  have hcounting := sum_map_set Point.isCounting hpoint point'
  obtain ⟨hlock, hbarriers, horder⟩ := h
  unfold Threads.total at hlock hbarriers horder
  cases heffect with
  | lock promised free =>
      simp only [Point.hasLock, Point.hasMark, Point.isMaking, Point.isCounting, free,
        Bool.toNat_false] at *
      refine ⟨?_, ?_, ?_⟩ <;> simp only [Threads.total, Bool.toNat_true] <;> omega
  | share promised latest known current =>
      have hheld := Bool.toNat_le s.shared.isLocked
      simp only [Point.hasLock, Point.hasMark, Point.isMaking, Point.isCounting] at *
      refine ⟨?_, ?_, ?_⟩ <;> simp only [Threads.total, Bool.toNat_false] <;> omega
  | remember latest promised =>
      have hheld := Bool.toNat_le s.shared.isLocked
      simp only [Point.hasLock, Point.hasMark, Point.isMaking, Point.isCounting] at *
      refine ⟨?_, ?_, ?_⟩ <;>
        simp only [Threads.total, Bool.toNat_false, Uplink.remember] <;> omega
  | _ =>
      simp only [Point.hasLock, Point.hasMark, Point.isMaking, Point.isCounting] at *
      refine ⟨?_, ?_, ?_⟩ <;>
        simp only [Threads.total, Shared.finish, Shared.store, Shared.countAccepted,
          Uplink.store, Uplink.countAccepted, withBacklog, onShipper, makeBarrier,
          List.length_append, List.length_singleton] <;> omega

theorem Metered.taken {s s' : Threads Shared Point} (h : Metered s) (htaken : Taken s s') :
    Metered s' := by
  cases htaken with
  | rest => exact h
  | caller hpoint effect => exact h.of_effect hpoint effect
  | relay relayed => cases relayed <;> exact ⟨h.lock, h.barriers, h.order⟩
  | network o => exact ⟨h.lock, h.barriers, h.order⟩

theorem metered_run (settings : Settings) (now threads : Nat) (turns : List Turn) :
    Metered (reached settings now threads turns) :=
  runTurns_induction (fun s turn h => h.taken (taken_take turn s)) turns
    (metered_start settings now threads)

private theorem Metered.unmarked_of_locked {s : Threads Shared Point} (h : Metered s)
    {promised : List Nat} (hlocked : Point.locked promised ∈ s.points) :
    s.total Point.hasMark = 0 := by
  have hheld := Bool.toNat_le s.shared.isLocked
  have hone := List.le_sum_of_mem (List.mem_map_of_mem (f := Point.hasLock) hlocked)
  have hlock := h.lock
  unfold Threads.total at hlock ⊢
  simp only [Point.hasLock] at hone
  omega

private theorem Metered.making_le {s : Threads Shared Point} (h : Metered s) :
    s.total Point.isMaking ≤ 1 := by
  have hheld := Bool.toNat_le s.shared.isLocked
  have hle := List.sum_le_sum fun point (_ : point ∈ s.points) => point.isMaking_le
  have hlock := h.lock
  unfold Threads.total at hlock ⊢
  omega

/-! The marks. -/

private theorem mark?_eq_none {points : List Point} (h : (points.map Point.hasMark).sum = 0)
    {point : Point} (hmem : point ∈ points) : point.mark? = none := by
  cases hmark : point.mark? with
  | none => rfl
  | some mark =>
      have hone := List.le_sum_of_mem (List.mem_map_of_mem (f := Point.hasMark) hmem)
      rw [Point.hasMark_of_mark? hmark] at hone
      omega

private theorem lt_of_getLast? {marks : List UInt64} (hincreasing : marks.Pairwise (· < ·))
    {last mark : UInt64} (hlast : marks.getLast? = some last) (hlt : last < mark) :
    ∀ other ∈ marks, other < mark := by
  obtain ⟨before, rfl⟩ := List.getLast?_eq_some_iff.mp hlast
  intro other hmem
  rcases List.mem_append.mp hmem with hbefore | hend
  · have hother := (List.pairwise_append.mp hincreasing).2.2 other hbefore last
      (List.mem_singleton_self last)
    exact UInt64.lt_trans hother hlt
  · rw [List.mem_singleton.mp hend]
    exact hlt

/-- The marks increase up to the counter. A caller that is making a barrier has read the last of
them, and otherwise the latest barrier has it. -/
structure Marked (s : Threads Shared Point) : Prop where
  increasing : s.shared.marks.Pairwise (· < ·)
  counted : ∀ mark ∈ s.shared.marks, mark.toNat ≤ s.shared.accepted.length
  read : ∀ point ∈ s.points, ∀ mark, point.mark? = some mark →
    s.shared.marks.getLast? = some mark
  settled : s.total Point.hasMark = 0 →
    s.shared.marks.getLast? = s.shared.uplink.latest.map Latest.acceptedAt
  made : ∀ latest promised, Point.made latest promised ∈ s.points →
    s.shared.marks[latest.id]? = some latest.acceptedAt
  latest : ∀ latest, s.shared.uplink.latest = some latest →
    s.shared.marks[latest.id]? = some latest.acceptedAt

theorem marked_start (settings : Settings) (now threads : Nat) :
    Marked (.start (.new settings now) .idle threads) := by
  refine ⟨.nil, ?_, ?_, fun _ => rfl, ?_, ?_⟩
  · intro mark hmem
    cases hmem
  · intro point hmem mark hmark
    rw [List.eq_of_mem_replicate hmem] at hmark
    cases hmark
  · intro latest promised hmem
    cases List.eq_of_mem_replicate hmem
  · intro latest hlatest
    cases hlatest

/-- A turn that touches neither the marks nor the latest barrier, and after which its caller has
read no mark if it had read none. -/
theorem Marked.unmoved {s : Threads Shared Point} (h : Marked s) {i : Nat} {point point' : Point}
    (hpoint : s.points[i]? = some point) {shared' : Shared}
    (hmarks : shared'.marks = s.shared.marks)
    (hlatest : shared'.uplink.latest = s.shared.uplink.latest)
    (haccepted : s.shared.accepted.length ≤ shared'.accepted.length)
    (hbefore : point.hasMark = 0) (hafter : point'.mark? = none) (hweight : point'.hasMark = 0) :
    Marked ⟨shared', s.points.set i point'⟩ := by
  have hmarking := sum_map_set Point.hasMark hpoint point'
  refine ⟨?_, ?_, ?_, ?_, ?_, ?_⟩
  · rw [hmarks]
    exact h.increasing
  · intro mark hmem
    rw [hmarks] at hmem
    exact Nat.le_trans (h.counted mark hmem) haccepted
  · intro other hmem mark hmark
    rw [hmarks]
    rcases List.mem_or_eq_of_mem_set hmem with hold | hnew
    · exact h.read other hold mark hmark
    · rw [hnew, hafter] at hmark
      cases hmark
  · intro hnone
    rw [hmarks, hlatest]
    apply h.settled
    simp only [Threads.total] at hnone ⊢
    omega
  · intro latest promised hmem
    rw [hmarks]
    rcases List.mem_or_eq_of_mem_set hmem with hold | hnew
    · exact h.made latest promised hold
    · rw [← hnew] at hafter
      cases hafter
  · intro latest hknown
    rw [hmarks]
    exact h.latest latest (hlatest.symm.trans hknown)

private theorem Marked.of_mark {s : Threads Shared Point} (h : Marked s) (hmetered : Metered s)
    (hcounter : s.shared.uplink.accepted.toNat = s.shared.accepted.length) {i : Nat}
    {promised : List Nat} (hpoint : s.points[i]? = some (.locked promised))
    (outdated : ∀ latest, s.shared.uplink.latest = some latest →
      latest.acceptedAt ≠ s.shared.uplink.accepted) :
    Marked
      ⟨{ s.shared with marks := s.shared.marks ++ [s.shared.uplink.accepted] },
        s.points.set i (.making s.shared.uplink.accepted promised)⟩ := by
  have hunmarked := hmetered.unmarked_of_locked (List.mem_of_getElem? hpoint)
  have hmarking := sum_map_set Point.hasMark hpoint (.making s.shared.uplink.accepted promised)
  have hlast := h.settled hunmarked
  unfold Threads.total at hunmarked
  have hbelow : ∀ mark ∈ s.shared.marks, mark < s.shared.uplink.accepted := by
    intro mark hmem
    cases hknown : s.shared.uplink.latest with
    | none =>
        rw [hknown, Option.map_none, List.getLast?_eq_none_iff] at hlast
        rw [hlast] at hmem
        cases hmem
    | some latest =>
        rw [hknown, Option.map_some] at hlast
        refine lt_of_getLast? h.increasing hlast ?_ mark hmem
        -- The counter has not gone back since the last mark, and is not where it was then.
        have hle := h.counted latest.acceptedAt (List.mem_of_getLast? hlast)
        have hne : latest.acceptedAt.toNat ≠ s.shared.uplink.accepted.toNat :=
          fun heq => outdated latest hknown (UInt64.toNat_inj.mp heq)
        rw [UInt64.lt_iff_toNat_lt]
        omega
  refine ⟨?_, ?_, ?_, ?_, ?_, ?_⟩
  · refine List.pairwise_append.mpr ⟨h.increasing, List.pairwise_singleton _ _, ?_⟩
    intro mark hmem other hother
    rw [List.mem_singleton.mp hother]
    exact hbelow mark hmem
  · intro mark hmem
    rcases List.mem_append.mp hmem with hold | hnew
    · exact h.counted mark hold
    · rw [List.mem_singleton.mp hnew]
      exact Nat.le_of_eq hcounter
  · intro other hmem mark hmark
    rcases List.mem_or_eq_of_mem_set hmem with hold | hnew
    · rw [mark?_eq_none hunmarked hold] at hmark
      cases hmark
    · rw [hnew] at hmark
      rw [List.getLast?_append, List.getLast?_singleton, Option.some_or]
      exact hmark
  · intro hnone
    simp only [Threads.total, Point.hasMark] at hnone hmarking
    omega
  · intro latest other hmem
    rcases List.mem_or_eq_of_mem_set hmem with hold | hnew
    · cases mark?_eq_none hunmarked hold
    · cases hnew
  · intro latest hknown
    have hknownMark := h.latest latest hknown
    rw [List.getElem?_append_left (List.getElem?_eq_some_iff.mp hknownMark).1]
    exact hknownMark

private theorem Marked.of_makeBarrier {s : Threads Shared Point} (h : Marked s)
    (hmetered : Metered s) {i : Nat} {accepted : UInt64} {promised : List Nat}
    (hpoint : s.points[i]? = some (.making accepted promised)) :
    Marked
      ⟨{ s.shared with uplink := s.shared.uplink.makeBarrier.1 },
        s.points.set i (.made ⟨s.shared.uplink.barriers, accepted⟩ promised)⟩ := by
  have hmem := List.mem_of_getElem? hpoint
  have hmarking :=
    sum_map_set Point.hasMark hpoint (.made ⟨s.shared.uplink.barriers, accepted⟩ promised)
  have hlast := h.read _ hmem accepted rfl
  refine ⟨h.increasing, h.counted, ?_, ?_, ?_, h.latest⟩
  · intro other hother mark hmark
    rcases List.mem_or_eq_of_mem_set hother with hold | hnew
    · exact h.read other hold mark hmark
    · rw [hnew] at hmark
      exact hlast.trans hmark
  · intro hnone
    have hone := List.le_sum_of_mem (List.mem_map_of_mem (f := Point.hasMark) hmem)
    simp only [Threads.total, Point.hasMark] at hnone hmarking hone
    omega
  · intro latest other hother
    rcases List.mem_or_eq_of_mem_set hother with hold | hnew
    · exact h.made latest other hold
    · -- The barrier gets the number of its mark, since no other is being made.
      cases hnew
      have hone := List.le_sum_of_mem (List.mem_map_of_mem (f := Point.isMaking) hmem)
      have hmaking := hmetered.making_le
      have hbarriers := hmetered.barriers
      simp only [Threads.total, Point.isMaking] at hone hmaking hbarriers
      rw [List.getLast?_eq_getElem?] at hlast
      have hnumber : s.shared.marks.length - 1 = s.shared.uplink.barriers := by omega
      rw [← hnumber]
      exact hlast

private theorem Marked.of_remember {s : Threads Shared Point} (h : Marked s) {i : Nat}
    {latest : Latest} {promised : List Nat} (hpoint : s.points[i]? = some (.made latest promised)) :
    Marked
      ⟨{ s.shared with uplink := s.shared.uplink.remember latest, isLocked := false },
        s.points.set i (.waiting latest.id promised)⟩ := by
  have hmem := List.mem_of_getElem? hpoint
  refine ⟨h.increasing, h.counted, ?_, ?_, ?_, ?_⟩
  · intro other hother mark hmark
    rcases List.mem_or_eq_of_mem_set hother with hold | hnew
    · exact h.read other hold mark hmark
    · rw [hnew] at hmark
      cases hmark
  · intro _
    exact h.read _ hmem latest.acceptedAt rfl
  · intro made other hother
    rcases List.mem_or_eq_of_mem_set hother with hold | hnew
    · exact h.made made other hold
    · cases hnew
  · intro made hknown
    have hsame : latest = made := Option.some.inj hknown
    rw [← hsame]
    exact h.made latest promised hmem

theorem Marked.of_effect {s : Threads Shared Point} (h : Marked s) (hmetered : Metered s)
    (hcounter : s.shared.uplink.accepted.toNat = s.shared.accepted.length) {i : Nat}
    {move : Move} {point point' : Point} (hpoint : s.points[i]? = some point) {shared' : Shared}
    (heffect : Effect s.shared move point point' shared') :
    Marked ⟨shared', s.points.set i point'⟩ := by
  cases heffect with
  | mark promised outdated => exact h.of_mark hmetered hcounter hpoint outdated
  | makeBarrier accepted promised => exact h.of_makeBarrier hmetered hpoint
  | remember latest promised => exact h.of_remember hpoint
  | countAccepted place =>
      refine h.unmoved hpoint rfl rfl ?_ rfl rfl rfl
      simp [Shared.countAccepted]
  | _ => exact h.unmoved hpoint rfl rfl (Nat.le_refl _) rfl rfl rfl

theorem Marked.taken {s s' : Threads Shared Point} (h : Marked s) (hmetered : Metered s)
    (hcounter : s.shared.uplink.accepted.toNat = s.shared.accepted.length)
    (htaken : Taken s s') : Marked s' := by
  cases htaken with
  | rest => exact h
  | caller hpoint effect => exact h.of_effect hmetered hcounter hpoint effect
  | relay relayed =>
      cases relayed <;> exact ⟨h.increasing, h.counted, h.read, h.settled, h.made, h.latest⟩
  | network o => exact ⟨h.increasing, h.counted, h.read, h.settled, h.made, h.latest⟩

private theorem accepted_le (settings : Settings) (now threads : Nat) (before during : List Turn) :
    (reached settings now threads before).shared.accepted.length ≤
      (reached settings now threads (before ++ during)).shared.accepted.length := by
  have hlater := later_run during (reached settings now threads before)
  rw [← reached_append] at hlater
  exact hlater.accepted.length_le

theorem counter_reached (settings : Settings) (now threads : Nat) (turns : List Turn)
    (hfew : (reached settings now threads turns).shared.accepted.length < UInt64.size) :
    (reached settings now threads turns).shared.uplink.accepted.toNat =
      (reached settings now threads turns).shared.accepted.length :=
  toNat_counter (sound_run settings now threads turns hfew) hfew

/-- As long as the counter does not wrap around. -/
theorem marked_run (settings : Settings) (now threads : Nat) (turns : List Turn)
    (hfew : (reached settings now threads turns).shared.accepted.length < UInt64.size) :
    Marked (reached settings now threads turns) := by
  induction turns using List.reverseRecOn with
  | nil => exact marked_start settings now threads
  | append_singleton before turn ih =>
      have hfewBefore := Nat.lt_of_le_of_lt (accepted_le settings now threads before [turn]) hfew
      have hcounter := counter_reached settings now threads before hfewBefore
      rw [reached_concat]
      exact (ih hfewBefore).taken (metered_run settings now threads before) hcounter
        (taken_take turn _)

/-! Stretches of a run. -/

/-- Nothing waits, and no caller is in a call. -/
structure AtRest (s : Threads Shared Point) : Prop where
  points : ∀ point ∈ s.points, point = .idle
  queue : s.shared.uplink.backlog.items = []
  relay : barriersAhead s.shared.uplink.relay = []

theorem marks_of_effect {move : Move} {point point' : Point} {s s' : Shared}
    (h : Effect s move point point' s') :
    s'.marks = s.marks ∨ s'.marks = s.marks ++ [s.uplink.accepted] := by
  cases h with
  | mark promised outdated => exact .inr rfl
  | _ => exact .inl rfl

private theorem marks_of_taken {s s' : Threads Shared Point} (h : Taken s s') :
    s'.shared.marks = s.shared.marks ∨
      s'.shared.marks = s.shared.marks ++ [s.shared.uplink.accepted] := by
  cases h with
  | caller hpoint effect => exact marks_of_effect effect
  | _ => exact .inl rfl

private theorem counter_le (settings : Settings) (now threads : Nat) (before during : List Turn)
    (hfew : (reached settings now threads (before ++ during)).shared.accepted.length <
      UInt64.size) :
    (reached settings now threads before).shared.uplink.accepted.toNat ≤
      (reached settings now threads (before ++ during)).shared.uplink.accepted.toNat := by
  have hgrown := accepted_le settings now threads before during
  have hfewBefore := Nat.lt_of_le_of_lt hgrown hfew
  rw [counter_reached settings now threads before hfewBefore,
    counter_reached settings now threads (before ++ during) hfew]
  exact hgrown

private theorem marks_since (settings : Settings) (now threads : Nat) (before during : List Turn)
    (hfew : (reached settings now threads (before ++ during)).shared.accepted.length <
      UInt64.size) :
    ∃ since, (reached settings now threads (before ++ during)).shared.marks =
        (reached settings now threads before).shared.marks ++ since ∧
      ∀ mark ∈ since,
        (reached settings now threads before).shared.uplink.accepted.toNat ≤ mark.toNat := by
  induction during using List.reverseRecOn with
  | nil =>
      refine ⟨[], by simp, ?_⟩
      intro mark hmem
      cases hmem
  | append_singleton during turn ih =>
      rw [← List.append_assoc] at hfew ⊢
      have hfewBefore := Nat.lt_of_le_of_lt
        (accepted_le settings now threads (before ++ during) [turn]) hfew
      obtain ⟨since, hmarks, hsince⟩ := ih hfewBefore
      have hcounter := counter_le settings now threads before during hfewBefore
      rw [reached_concat]
      rcases marks_of_taken (taken_take turn (reached settings now threads (before ++ during)))
        with hsame | hread
      · exact ⟨since, hsame.trans hmarks, hsince⟩
      · refine ⟨since ++ [_], by rw [hread, hmarks, List.append_assoc], ?_⟩
        intro mark hmem
        rcases List.mem_append.mp hmem with hold | hnew
        · exact hsince mark hold
        · rw [List.mem_singleton.mp hnew]
          exact hcounter

/-- Increasing marks between two readings of the counter are at most one more than the steps it made
between them. -/
theorem length_le_of_increasing {marks : List UInt64} (hincreasing : marks.Pairwise (· < ·))
    {first last : Nat} (hbounds : ∀ mark ∈ marks, first ≤ mark.toNat ∧ mark.toNat ≤ last) :
    marks.length ≤ last - first + 1 := by
  induction marks generalizing first with
  | nil => exact Nat.zero_le _
  | cons mark rest ih =>
      obtain ⟨hmark, hrest⟩ := List.pairwise_cons.mp hincreasing
      have hbound := hbounds mark List.mem_cons_self
      cases rest with
      | nil =>
          rw [List.length_singleton]
          omega
      | cons next others =>
          have habove : ∀ other ∈ next :: others,
              mark.toNat + 1 ≤ other.toNat ∧ other.toNat ≤ last := by
            intro other hmem
            have hother := UInt64.lt_iff_toNat_lt.mp (hmark other hmem)
            have hle := hbounds other (List.mem_cons_of_mem mark hmem)
            omega
          have hlength := ih hrest habove
          have hnext := habove next List.mem_cons_self
          rw [List.length_cons]
          omega

private theorem AtRest.total_eq_zero {s : Threads Shared Point} (h : AtRest s)
    {weight : Point → Nat} (hweight : weight .idle = 0) : s.total weight = 0 := by
  refine List.sum_eq_zero (List.forall_mem_map.mpr ?_)
  intro point hmem
  rw [h.points point hmem]
  exact hweight

private theorem length_issued {u : Uplink} (h : InOrder u) :
    u.shipper.released.length + (barriersIn u.backlog).length + (barriersAhead u.relay).length =
      u.barriers := by
  have hissued := congrArg List.length h
  rw [issued, Account.barriers, List.length_append, List.length_append, List.length_range]
    at hissued
  exact hissued

private theorem AtRest.length_marks {s : Threads Shared Point} (h : AtRest s) (hmetered : Metered s)
    (hrow : InOrder s.shared.uplink) :
    s.shared.marks.length = s.shared.uplink.shipper.released.length := by
  have hnone : barriersIn s.shared.uplink.backlog = [] :=
    congrArg (List.filterMap Parcel.barrier?) h.queue
  have hissued := length_issued hrow
  rw [hnone, h.relay, List.length_nil] at hissued
  rw [hmetered.barriers, h.total_eq_zero rfl]
  exact hissued.symm

private theorem length_counted {s : Threads Shared Point} (hmetered : Metered s)
    (haccounted : Accounted s) :
    s.shared.shipped.length + (texts s.shared.uplink.backlog).length =
      s.shared.accepted.length + s.total Point.isCounting := by
  rw [← hmetered.order, haccounted.order_eq, Account.stored, List.length_append]
  rfl

private theorem AtRest.length_accepted {s : Threads Shared Point} (h : AtRest s)
    (hmetered : Metered s) (haccounted : Accounted s) :
    s.shared.accepted.length = s.shared.shipped.length := by
  have hnone : texts s.shared.uplink.backlog = [] :=
    congrArg (List.filterMap Parcel.text?) h.queue
  have hcounted := length_counted hmetered haccounted
  rw [h.total_eq_zero rfl, hnone, List.length_nil, Nat.add_zero, Nat.add_zero] at hcounted
  exact hcounted.symm

/-- The marks of barriers increase, and in a stretch there is at most one more of them than messages
are counted. If the stretch begins at rest and the shipper takes nothing in it, no more barriers
wait than one for each message that may wait and one, however many flushes there are, and they take
no place of a message. -/
theorem barriers_bounded (settings : Settings) (now threads : Nat) (before during : List Turn)
    (hfew : (reached settings now threads (before ++ during)).shared.accepted.length <
      UInt64.size) :
    let first := reached settings now threads before
    let last := reached settings now threads (before ++ during)
    let queue := last.shared.uplink.backlog
    last.shared.marks.Pairwise (· < ·) ∧
      (∀ latest, (last.shared.uplink.latest = some latest ∨
          ∃ promised, Point.made latest promised ∈ last.points) →
        last.shared.marks[latest.id]? = some latest.acceptedAt) ∧
      last.shared.marks.length = last.shared.uplink.barriers + last.total Point.isMaking ∧
      (∃ since, last.shared.marks = first.shared.marks ++ since ∧
        since.length ≤ last.shared.uplink.accepted.toNat - first.shared.uplink.accepted.toNat + 1) ∧
      (texts queue).length ≤ settings.maxWaiting ∧
      (AtRest first → last.shared.shipped = first.shared.shipped →
        last.shared.uplink.shipper.released = first.shared.uplink.shipper.released →
        (barriersIn queue).length + (barriersAhead last.shared.uplink.relay).length ≤
            settings.maxWaiting + 1 ∧
          last.shared.uplink.waiting = (texts queue).length + last.total Point.isStoring ∧
          ∀ i time message, last.points[i]? = some .idle → message ≠ "" →
            ((last.step act i (.send time message)).points[i]? = some .idle ↔
              (texts queue).length + last.total Point.isStoring = settings.maxWaiting)) := by
  intro first last queue
  have hmarked : Marked last := marked_run settings now threads (before ++ during) hfew
  have hmetered : Metered last := metered_run settings now threads (before ++ during)
  have hstocked : Stocked settings.maxWaiting (last.total Point.isStoring) queue :=
    stocked_run settings now threads (before ++ during)
  have hsettings : last.shared.uplink.settings = settings :=
    settings_shipperAfter settings now threads (before ++ during)
  have hcounter : last.shared.uplink.accepted.toNat = last.shared.accepted.length :=
    counter_reached settings now threads (before ++ during) hfew
  obtain ⟨since, hmarks, hsince⟩ := marks_since settings now threads before during hfew
  have hlength : since.length ≤
      last.shared.uplink.accepted.toNat - first.shared.uplink.accepted.toNat + 1 := by
    refine length_le_of_increasing ?_ ?_
    · have hincreasing := hmarked.increasing
      rw [hmarks] at hincreasing
      exact (List.pairwise_append.mp hincreasing).2.1
    · intro mark hmem
      refine ⟨hsince mark hmem, ?_⟩
      rw [hcounter]
      exact hmarked.counted mark (by rw [hmarks]; exact List.mem_append_right _ hmem)
  have hfirstCounter : first.shared.uplink.accepted.toNat = first.shared.accepted.length :=
    counter_reached settings now threads before
      (Nat.lt_of_le_of_lt (accepted_le settings now threads before during) hfew)
  have hsize := hstocked.size_eq
  have hle := hstocked.size_le
  refine ⟨hmarked.increasing, ?_, hmetered.barriers, ⟨since, hmarks, hlength⟩, by omega, ?_⟩
  · rintro latest (hlatest | ⟨promised, hmade⟩)
    · exact hmarked.latest latest hlatest
    · exact hmarked.made latest promised hmade
  · intro hrest hshipped hreleased
    refine ⟨?_, hsize, ?_⟩
    · -- The barriers that wait were made in the stretch, and so were the messages counted in it
      -- stored in it, which are all still in the queue.
      have hmade : first.shared.marks.length = first.shared.uplink.shipper.released.length :=
        hrest.length_marks (metered_run settings now threads before)
          (inOrder_run settings now threads before)
      have hfirst : first.shared.accepted.length = first.shared.shipped.length :=
        hrest.length_accepted (metered_run settings now threads before)
          (accounted_run settings now threads before)
      have hissued : last.shared.uplink.shipper.released.length + (barriersIn queue).length +
          (barriersAhead last.shared.uplink.relay).length = last.shared.uplink.barriers :=
        length_issued (inOrder_run settings now threads (before ++ during))
      have hcounted : last.shared.shipped.length + (texts queue).length =
          last.shared.accepted.length + last.total Point.isCounting :=
        length_counted hmetered (accounted_run settings now threads (before ++ during))
      have hbarriers : first.shared.marks.length + since.length =
          last.shared.uplink.barriers + last.total Point.isMaking := by
        rw [← hmetered.barriers, hmarks, List.length_append]
      rw [hcounter, hfirstCounter] at hlength
      rw [hshipped] at hcounted
      rw [hreleased] at hissued
      omega
    · intro i time message hidle hmessage
      rw [refused_iff hidle hmessage, hsettings]
      change settings.maxWaiting ≤ queue.size ↔ _
      omega

/-- One message may wait. A flush before it and a flush after it make a barrier each, of which the
flush worker has put one into the queue, and there is no place for a second message. -/
theorem barriers_bounded_reached :
    let settings : Settings := { Settings.forServer "logs" 12201 with maxWaiting := 1 }
    let flush : List Turn := .caller 0 (.flush 1) :: List.replicate 4 (.caller 0 .resume)
    let during : List Turn :=
      flush ++ [.caller 0 .giveUp, .relay, .relay] ++
        [.caller 1 (.send 2 "up"), .caller 1 .resume, .caller 1 .resume] ++ flush
    let queue := (reached settings 0 2 during).shared.uplink.backlog
    let relay := (reached settings 0 2 during).shared.uplink.relay
    barriersIn queue = [0] ∧ barriersAhead relay = [1] ∧
      (barriersIn queue).length + (barriersAhead relay).length ≤ settings.maxWaiting + 1 ∧
      ((reached settings 0 2 during).step act 1 (.send 3 "down")).points[1]? = some .idle := by
  intro settings flush during queue relay
  have hbounded := barriers_bounded settings 0 2 [] during (by decide +kernel)
  rw [List.nil_append] at hbounded
  have hrest : AtRest (reached settings 0 2 []) := by
    refine ⟨?_, by decide +kernel, by decide +kernel⟩
    intro point hmem
    exact List.eq_of_mem_replicate hmem
  obtain ⟨hwaiting, -, hrefused⟩ :=
    hbounded.2.2.2.2.2 hrest (by decide +kernel) (by decide +kernel)
  refine ⟨by decide +kernel, by decide +kernel, hwaiting, ?_⟩
  exact (hrefused 1 3 "down" (by decide +kernel) (by decide)).mpr (by decide +kernel)

end Uplink

end LogShipping
