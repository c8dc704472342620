import LogShipping.Backlog.Threads
import LogShipping.Proofs.Lists

/-!
The counter of a queue that many threads use. However they interleave, it is made up of the stored
entries that count, the producers that have a place and have not stored their item, and the
consumers that have taken an entry out and have not given its place back. From this follows how many
calls are admitted.
-/

namespace LogShipping.Backlog

variable {α : Type}

@[simp] theorem size_count (q : Backlog α) : q.count.size = q.size + 1 := rfl

@[simp] theorem counted_count (q : Backlog α) : q.count.counted = q.counted := rfl

@[simp] theorem size_store (entry : Entry α) (q : Backlog α) :
    (q.store entry).size = q.size := rfl

@[simp] theorem size_pushUncounted (item : α) (q : Backlog α) :
    (q.pushUncounted item).size = q.size := rfl

private theorem counted_store (item : α) (q : Backlog α) :
    (q.store ⟨item, true⟩).counted = q.counted ++ [item] := by
  simp [store, counted]

@[simp] theorem counted_discount (entry : Entry α) (q : Backlog α) :
    (q.discount entry).counted = q.counted := by
  unfold discount
  split <;> rfl

@[simp] theorem items_discount (entry : Entry α) (q : Backlog α) :
    (q.discount entry).items = q.items := by
  unfold discount
  split <;> rfl

theorem size_discount (entry : Entry α) (q : Backlog α) :
    (q.discount entry).size = q.size - if entry.counted then 1 else 0 := by
  unfold discount
  split <;> simp

theorem take?_eq_some {q rest : Backlog α} {entry : Entry α}
    (h : q.take? = some (entry, rest)) :
    rest.size = q.size ∧ q.entries = entry :: rest.entries := by
  obtain ⟨entries, size⟩ := q
  cases entries with
  | nil => simp [take?] at h
  | cons head tail =>
      simp only [take?, Option.some.injEq, Prod.mk.injEq] at h
      obtain ⟨rfl, rfl⟩ := h
      exact ⟨rfl, rfl⟩

private theorem length_counted_take? {q rest : Backlog α} {entry : Entry α}
    (h : q.take? = some (entry, rest)) :
    q.counted.length = rest.counted.length + if entry.counted then 1 else 0 := by
  have hentries := (take?_eq_some h).2
  by_cases hcounted : entry.counted <;> simp [counted, hentries, hcounted]

def Point.admittedPlaces : Point α → Nat
  | admitted _ => 1
  | _ => 0

def Point.owedPlaces : Point α → Nat
  | withdrawn entry => if entry.counted then 1 else 0
  | _ => 0

private theorem Point.held_eq (point : Point α) :
    point.held = point.admittedPlaces + point.owedPlaces := by
  cases point <;> simp [held, admittedPlaces, owedPlaces]

def Outcome.isPushed : Outcome α → Bool
  | pushed _ => true
  | _ => false

/-- How many calls that might have been rejected were not. -/
def Shared.pushes (s : Shared α) : Nat :=
  s.outcomes.countP Outcome.isPushed

def Shared.empty : Shared α := ⟨.empty, []⟩

abbrev System (α : Type) := Threads (Shared α) (Point α)

def IsQuiet (s : System α) : Prop :=
  ∀ point ∈ s.points, point = .idle

def startsTryPush (s : System α) (i : Nat) (move : Move α) : Bool :=
  match move, s.points[i]? with
  | .tryPush _, some .idle => true
  | _, _ => false

def attempts (limit : Nat) : List (Nat × Move α) → System α → Nat
  | [], _ => 0
  | (i, move) :: rest, s =>
      (startsTryPush s i move).toNat + attempts limit rest (s.step (act limit) i move)

def reached (limit threads : Nat) (schedule : List (Nat × Move α)) : System α :=
  (Threads.start Shared.empty .idle threads).run (act limit) schedule

inductive Effect (limit : Nat) (s : Shared α) :
    Move α → Point α → Point α → Shared α → Prop
  | grant (item : α) (room : s.backlog.size < limit) :
      Effect limit s (.tryPush item) .idle (.admitted item)
        { s with backlog := s.backlog.count }
  | reject (item : α) (full : limit ≤ s.backlog.size) :
      Effect limit s (.tryPush item) .idle .idle (s.finish (.rejected item))
  | pushUncounted (item : α) :
      Effect limit s (.pushUncounted item) .idle .idle
        { s with backlog := s.backlog.pushUncounted item }
  | withdraw (entry : Entry α) (rest : Backlog α)
      (taken : s.backlog.take? = some (entry, rest)) :
      Effect limit s .pop .idle (.withdrawn entry) { s with backlog := rest }
  | store (item : α) :
      Effect limit s .resume (.admitted item) .idle
        ({ s with backlog := s.backlog.store ⟨item, true⟩ }.finish (.pushed item))
  | discount (entry : Entry α) :
      Effect limit s .resume (.withdrawn entry) .idle
        ({ s with backlog := s.backlog.discount entry }.finish (.popped entry.item))

private theorem effect_of_act {limit : Nat} {move : Move α} {point point' : Point α}
    {s s' : Shared α} (h : act limit move point s = some (point', s')) :
    Effect limit s move point point' s' := by
  cases move with
  | tryPush item =>
      cases point with
      | idle =>
          by_cases room : s.backlog.size < limit
          · simp only [act, admit?, room, if_true, Option.some.injEq, Prod.mk.injEq] at h
            obtain ⟨rfl, rfl⟩ := h
            exact .grant item room
          · simp only [act, admit?, room, if_false, Option.some.injEq, Prod.mk.injEq] at h
            obtain ⟨rfl, rfl⟩ := h
            exact .reject item (Nat.le_of_not_lt room)
      | admitted _ => simp [act] at h
      | withdrawn _ => simp [act] at h
  | pushUncounted item =>
      cases point with
      | idle =>
          simp only [act, Option.some.injEq, Prod.mk.injEq] at h
          obtain ⟨rfl, rfl⟩ := h
          exact .pushUncounted item
      | admitted _ => simp [act] at h
      | withdrawn _ => simp [act] at h
  | pop =>
      cases point with
      | idle =>
          simp only [act, Option.map_eq_some_iff, Prod.exists, Prod.mk.injEq] at h
          obtain ⟨entry, rest, taken, rfl, rfl⟩ := h
          exact .withdraw entry rest taken
      | admitted _ => simp [act] at h
      | withdrawn _ => simp [act] at h
  | resume =>
      cases point with
      | idle => simp [act] at h
      | admitted item =>
          simp only [act, Option.some.injEq, Prod.mk.injEq] at h
          obtain ⟨rfl, rfl⟩ := h
          exact .store item
      | withdrawn entry =>
          simp only [act, Option.some.injEq, Prod.mk.injEq] at h
          obtain ⟨rfl, rfl⟩ := h
          exact .discount entry

structure Balanced (limit : Nat) (s : System α) : Prop where
  size_eq : s.shared.backlog.size = s.shared.backlog.counted.length + s.total Point.held
  size_le : s.shared.backlog.size ≤ limit

theorem balanced_start (limit threads : Nat) :
    Balanced limit (.start Shared.empty .idle threads : System α) := by
  constructor
  · simp [Threads.start, Threads.total, Shared.empty, Backlog.empty, counted, Point.held]
  · exact Nat.zero_le limit

theorem Balanced.of_effect {limit : Nat} {s : System α} (h : Balanced limit s) {i : Nat}
    {move : Move α} {point point' : Point α} (hpoint : s.points[i]? = some point)
    {shared' : Shared α} (heffect : Effect limit s.shared move point point' shared') :
    Balanced limit ⟨shared', s.points.set i point'⟩ := by
  have htotal := sum_map_set Point.held hpoint point'
  have hsize := h.size_eq
  have hle := h.size_le
  unfold Threads.total at hsize
  cases heffect with
  | grant item room =>
      refine ⟨?_, room⟩
      simp only [Point.held, Threads.total, size_count, counted_count] at htotal ⊢
      omega
  | reject item full =>
      refine ⟨?_, hle⟩
      simp only [Point.held, Threads.total, Shared.finish] at htotal ⊢
      omega
  | pushUncounted item =>
      refine ⟨?_, hle⟩
      simp only [Point.held, Threads.total, size_pushUncounted, counted_pushUncounted] at htotal ⊢
      omega
  | withdraw entry rest taken =>
      have hrest := (take?_eq_some taken).1
      have hcounted := length_counted_take? taken
      refine ⟨?_, by rw [hrest]; exact hle⟩
      simp only [Point.held, Threads.total] at htotal ⊢
      omega
  | store item =>
      refine ⟨?_, hle⟩
      simp only [Point.held, Threads.total, Shared.finish, size_store, counted_store,
        List.length_append, List.length_singleton] at htotal ⊢
      omega
  | discount entry =>
      have hdiscount := size_discount entry s.shared.backlog
      refine ⟨?_, ?_⟩
      · simp only [Point.held, Threads.total, Shared.finish, counted_discount] at htotal ⊢
        omega
      · simp only [Shared.finish]
        omega

theorem Balanced.step {limit : Nat} {s : System α} (h : Balanced limit s) (i : Nat)
    (move : Move α) : Balanced limit (s.step (act limit) i move) := by
  rcases Threads.step_cases (act limit) i move s with hrest | hmove
  · rw [hrest]
    exact h
  · obtain ⟨point, point', shared', hpoint, hact, hstep⟩ := hmove
    rw [hstep]
    exact h.of_effect hpoint (effect_of_act hact)

theorem balanced_reached (limit threads : Nat) (schedule : List (Nat × Move α)) :
    Balanced limit (reached limit threads schedule) :=
  Threads.run_induction (fun _ i move h => h.step i move) schedule (balanced_start limit threads)

private theorem total_held (s : System α) :
    s.total Point.held = s.total Point.admittedPlaces + s.total Point.owedPlaces := by
  unfold Threads.total
  rw [← List.sum_map_add]
  apply congrArg (fun weight => (s.points.map weight).sum)
  funext point
  exact point.held_eq

private theorem IsQuiet.total_eq_zero {s : System α} (h : IsQuiet s) {weight : Point α → Nat}
    (hidle : weight .idle = 0) : s.total weight = 0 := by
  refine List.sum_eq_zero (List.forall_mem_map.mpr ?_)
  intro point hpoint
  rw [h point hpoint, hidle]

private theorem Balanced.exact_of_isQuiet {limit : Nat} {s : System α} (h : Balanced limit s)
    (hquiet : IsQuiet s) : s.shared.backlog.Exact := by
  have hheld : s.total Point.held = 0 := hquiet.total_eq_zero rfl
  have hsize := h.size_eq
  unfold Exact
  omega

/-- In a stretch without pops, what `attempts` calls have done so far to a counter that stood at
`start` when `pushes` calls had succeeded. -/
structure Stretch (limit start pushes attempts : Nat) (s : System α) : Prop where
  size_eq : s.shared.backlog.size = min limit (start + attempts)
  pushes_eq :
    s.shared.backlog.size + pushes = start + s.shared.pushes + s.total Point.admittedPlaces
  owed_eq : s.total Point.owedPlaces = 0

private theorem act_of_startsTryPush {s : System α} {i : Nat} {move : Move α} {point : Point α}
    (hpoint : s.points[i]? = some point) {limit : Nat} (hact : act limit move point s.shared = none) :
    startsTryPush s i move = false := by
  unfold startsTryPush
  cases move with
  | tryPush item =>
      cases point with
      | idle =>
          by_cases room : s.shared.backlog.size < limit <;> simp [act, admit?, room] at hact
      | admitted _ => simp [hpoint]
      | withdrawn _ => simp [hpoint]
  | pushUncounted _ => rfl
  | pop => rfl
  | resume => rfl

theorem Stretch.of_effect {limit start pushes attempts : Nat} {s : System α}
    (h : Stretch limit start pushes attempts s) {i : Nat} {move : Move α} (hpop : move ≠ .pop)
    {point point' : Point α} (hpoint : s.points[i]? = some point) {shared' : Shared α}
    (heffect : Effect limit s.shared move point point' shared') :
    Stretch limit start pushes (attempts + (startsTryPush s i move).toNat)
      ⟨shared', s.points.set i point'⟩ := by
  obtain ⟨hsize, hpushes, howed⟩ := h
  have hadmitted := sum_map_set Point.admittedPlaces hpoint point'
  have howedSet := sum_map_set Point.owedPlaces hpoint point'
  unfold Threads.total at hpushes howed
  cases heffect with
  | grant item room =>
      have hstarts : startsTryPush s i (.tryPush item) = true := by
        simp [startsTryPush, hpoint]
      simp only [Point.admittedPlaces, Point.owedPlaces] at hadmitted howedSet
      refine ⟨?_, ?_, ?_⟩
      · simp only [size_count, hstarts, Bool.toNat_true]
        omega
      · simp only [size_count, Shared.pushes, Threads.total] at hpushes ⊢
        omega
      · simp only [Threads.total]
        omega
  | reject item full =>
      have hstarts : startsTryPush s i (.tryPush item) = true := by
        simp [startsTryPush, hpoint]
      simp only [Point.admittedPlaces, Point.owedPlaces] at hadmitted howedSet
      refine ⟨?_, ?_, ?_⟩
      · simp only [Shared.finish, hstarts, Bool.toNat_true]
        omega
      · simp only [Shared.finish, Shared.pushes, Threads.total, List.countP_append,
          List.countP_singleton, Outcome.isPushed, Bool.false_eq_true, if_false] at hpushes ⊢
        omega
      · simp only [Threads.total]
        omega
  | pushUncounted item =>
      simp only [Point.admittedPlaces, Point.owedPlaces] at hadmitted howedSet
      refine ⟨?_, ?_, ?_⟩
      · simpa [startsTryPush] using hsize
      · simp only [size_pushUncounted, Shared.pushes, Threads.total] at hpushes ⊢
        omega
      · simp only [Threads.total]
        omega
  | withdraw entry rest taken => exact absurd rfl hpop
  | store item =>
      simp only [Point.admittedPlaces, Point.owedPlaces] at hadmitted howedSet
      refine ⟨?_, ?_, ?_⟩
      · simpa [startsTryPush, Shared.finish] using hsize
      · simp only [Shared.finish, size_store, Shared.pushes, Threads.total, List.countP_append,
          List.countP_singleton, Outcome.isPushed, if_true] at hpushes ⊢
        omega
      · simp only [Threads.total]
        omega
  | discount entry =>
      -- No place is owed in the stretch, so the entry was not counted and the counter stays.
      have hdiscount := size_discount entry s.shared.backlog
      have hown := List.le_sum_of_mem
        (List.mem_map_of_mem (f := Point.owedPlaces) (List.mem_of_getElem? hpoint))
      simp only [Point.admittedPlaces, Point.owedPlaces] at hadmitted howedSet hown
      refine ⟨?_, ?_, ?_⟩
      · simp only [Shared.finish, startsTryPush, Bool.toNat_false]
        omega
      · simp only [Shared.finish, Shared.pushes, Threads.total, List.countP_append,
          List.countP_singleton, Outcome.isPushed, Bool.false_eq_true, if_false] at hpushes ⊢
        omega
      · simp only [Threads.total]
        omega

theorem Stretch.step {limit start pushes attempts : Nat} {s : System α}
    (h : Stretch limit start pushes attempts s) (i : Nat) {move : Move α} (hpop : move ≠ .pop) :
    Stretch limit start pushes (attempts + (startsTryPush s i move).toNat)
      (s.step (act limit) i move) := by
  cases hpoint : s.points[i]? with
  | none =>
      have hstarts : startsTryPush s i move = false := by
        unfold startsTryPush
        cases move <;> simp [hpoint]
      simpa [Threads.step, hpoint, hstarts] using h
  | some point =>
      cases hact : act limit move point s.shared with
      | none =>
          have hstarts := act_of_startsTryPush hpoint hact
          simpa [Threads.step, hpoint, hact, hstarts] using h
      | some next =>
          obtain ⟨point', shared'⟩ := next
          have hstep : s.step (act limit) i move = ⟨shared', s.points.set i point'⟩ := by
            simp [Threads.step, hpoint, hact]
          rw [hstep]
          exact h.of_effect hpop hpoint (effect_of_act hact)

theorem Stretch.run {limit start pushes : Nat} (schedule : List (Nat × Move α))
    (hpop : ∀ turn ∈ schedule, turn.2 ≠ .pop) {before : Nat} {s : System α}
    (h : Stretch limit start pushes before s) :
    Stretch limit start pushes (before + attempts limit schedule s)
      (s.run (act limit) schedule) := by
  induction schedule generalizing before s with
  | nil => exact h
  | cons turn rest ih =>
      obtain ⟨i, move⟩ := turn
      simp only [List.mem_cons, forall_eq_or_imp] at hpop
      rw [Threads.run_cons, attempts, ← Nat.add_assoc]
      exact ih hpop.2 (h.step i hpop.1)

private theorem step_of_rejected {limit : Nat} {s : System α} {i : Nat} {move : Move α} {item : α}
    (h : (s.step (act limit) i move).shared.outcomes = s.shared.outcomes ++ [.rejected item]) :
    move = .tryPush item ∧ (s.step (act limit) i move).shared.backlog = s.shared.backlog ∧
      (s.step (act limit) i move).points = s.points := by
  rcases Threads.step_cases (act limit) i move s with hrest | hmove
  · rw [hrest] at h
    simp at h
  · obtain ⟨point, point', shared', hpoint, hact, hstep⟩ := hmove
    rw [hstep] at h ⊢
    cases effect_of_act hact with
    | reject other full =>
        simp only [Shared.finish, List.append_cancel_left_eq, List.cons.injEq,
          Outcome.rejected.injEq, and_true] at h
        refine ⟨by rw [h], rfl, ?_⟩
        apply List.ext_getElem?
        intro j
        by_cases hij : i = j
        · subst j
          rw [List.getElem?_set_self (List.getElem?_eq_some_iff.mp hpoint).1, hpoint]
        · exact List.getElem?_set_ne hij
    | grant other room => simp at h
    | pushUncounted other => simp at h
    | withdraw entry rest taken => simp at h
    | store other => simp [Shared.finish] at h
    | discount entry => simp [Shared.finish] at h

/-- The counter is exact up to the calls in progress, it never exceeds the limit, and it is never
taken below zero. A rejected call changes nothing. Between two moments without calls in progress,
with no pops in between, as many calls succeed as there were places, or all of them. -/
theorem admission_exact (limit threads : Nat) (schedule : List (Nat × Move α)) :
    let s := reached limit threads schedule
    s.shared.backlog.size = s.shared.backlog.counted.length +
        s.total Point.admittedPlaces + s.total Point.owedPlaces ∧
      (∀ (i : Nat) (entry : Entry α), s.points[i]? = some (.withdrawn entry) → entry.counted →
        0 < s.shared.backlog.size) ∧
      s.shared.backlog.counted.length ≤ limit ∧
      (IsQuiet s → s.shared.backlog.Exact) ∧
      (∀ (i : Nat) (move : Move α) (item : α),
        (s.step (act limit) i move).shared.outcomes = s.shared.outcomes ++ [.rejected item] →
          move = .tryPush item ∧
            (s.step (act limit) i move).shared.backlog = s.shared.backlog ∧
            (s.step (act limit) i move).points = s.points) ∧
      ∀ stretch : List (Nat × Move α), (∀ turn ∈ stretch, turn.2 ≠ .pop) →
        IsQuiet s → IsQuiet (s.run (act limit) stretch) →
        (s.run (act limit) stretch).shared.pushes = s.shared.pushes +
          min (limit - s.shared.backlog.counted.length) (attempts limit stretch s) := by
  intro s
  have hbalanced : Balanced limit s := balanced_reached limit threads schedule
  have hsize := hbalanced.size_eq
  have hle := hbalanced.size_le
  rw [total_held] at hsize
  refine ⟨by omega, ?_, by omega, hbalanced.exact_of_isQuiet, ?_, ?_⟩
  · intro i entry hpoint hcounted
    have howed : Point.owedPlaces (.withdrawn entry) ≤ s.total Point.owedPlaces :=
      List.le_sum_of_mem (List.mem_map_of_mem (List.mem_of_getElem? hpoint))
    simp only [Point.owedPlaces, hcounted, if_true] at howed
    omega
  · intro i move item
    exact step_of_rejected
  · intro stretch hpop hquiet hquiet'
    have hadmitted : s.total Point.admittedPlaces = 0 := hquiet.total_eq_zero rfl
    have howed : s.total Point.owedPlaces = 0 := hquiet.total_eq_zero rfl
    have hstart : Stretch limit s.shared.backlog.size s.shared.pushes 0 s := by
      refine ⟨?_, ?_, howed⟩
      · omega
      · omega
    obtain ⟨hend, hpushes, -⟩ := hstart.run stretch hpop
    have hadmitted' : (s.run (act limit) stretch).total Point.admittedPlaces = 0 :=
      hquiet'.total_eq_zero rfl
    omega

/-- Of two places one is taken, and two threads compete for the other. -/
theorem admission_exact_contended :
    let s : System Nat := reached 2 2 [(0, .tryPush 7), (0, .resume)]
    let stretch : List (Nat × Move Nat) :=
      [(0, .tryPush 8), (1, .tryPush 9), (0, .resume), (1, .pushUncounted 5), (1, .tryPush 6)]
    (∀ turn ∈ stretch, turn.2 ≠ .pop) ∧ IsQuiet s ∧ IsQuiet (s.run (act 2) stretch) ∧
      attempts 2 stretch s = 3 ∧ (s.run (act 2) stretch).shared.pushes = 2 := by
  intro s stretch
  have hpop : ∀ turn ∈ stretch, turn.2 ≠ .pop := by decide
  have hquiet : IsQuiet s := by unfold IsQuiet; decide
  have hquiet' : IsQuiet (s.run (act 2) stretch) := by unfold IsQuiet; decide
  have hpushes := (admission_exact 2 2 [(0, .tryPush 7), (0, .resume)]).2.2.2.2.2 stretch hpop
    hquiet hquiet'
  refine ⟨hpop, hquiet, hquiet', by decide, ?_⟩
  rw [hpushes]
  decide

end LogShipping.Backlog
