import LogShipping.Proofs.Throttle.Use
import LogShipping.Proofs.Uplink.Helm

namespace LogShipping.Uplink

def Event.refusals : Event → Nat
  | queueFull count => count.toNat
  | dropped count => count.toNat
  | _ => 0

namespace Shipper

def refusalsTold (s : Shipper) : Nat :=
  (s.journal.map Event.refusals).sum

@[simp] theorem refusalsTold_note (event : Event) (s : Shipper) :
    (s.note event).refusalsTold = s.refusalsTold + event.refusals := by
  simp [refusalsTold, note]

@[simp] theorem refusalsTold_publish (s : Shipper) : s.publish.refusalsTold = s.refusalsTold := by
  unfold publish
  split
  · rfl
  · exact refusalsTold_note _ s

@[simp] theorem refusalsTold_retryAfter (delay : Span) (o : Outside) (s : Shipper) :
    (s.retryAfter delay o).refusalsTold = s.refusalsTold := by
  unfold retryAfter
  split <;> rfl

@[simp] theorem refusalsTold_lose (cause : IoError) (link : Link) (o : Outside) (s : Shipper) :
    (s.lose cause link o).refusalsTold = s.refusalsTold := by
  rw [lose, refusalsTold_retryAfter]
  exact refusalsTold_note _ s

@[simp] theorem refusalsTold_load (link : Link) (s : Shipper) :
    (s.load link).1.refusalsTold = s.refusalsTold := by
  obtain ⟨backlog, buffer, released, hload⟩ := load_eq link s
  rw [hload]
  rfl

@[simp] theorem refusalsTold_unload (link : Link) (o : Outside) (s : Shipper) :
    (s.unload link o).refusalsTold = s.refusalsTold := by
  unfold unload
  split
  · rfl
  · simp

private theorem refusalsTold_lookUp (o : Outside) (s : Shipper) :
    (s.lookUp o).refusalsTold = s.refusalsTold := by
  unfold lookUp
  split
  · rfl
  · simp [Event.refusals]
  · rfl
  · simp [Event.refusals]

private theorem refusalsTold_dial (plan : Network.DialPlan) (o : Outside) (s : Shipper) :
    (s.dial plan o).refusalsTold = s.refusalsTold := by
  unfold dial
  split
  · simp
  · split
    · exact refusalsTold_note _ s
    · dsimp only
      split
      · simp [Event.refusals]
      · exact refusalsTold_note _ s

private theorem refusalsTold_ship (link : Link) (o : Outside) (s : Shipper) :
    (s.ship link o).refusalsTold = s.refusalsTold := by
  unfold ship
  split
  · simp
  · split <;> simp
  · simp

@[simp] theorem refusalsTold_step (o : Outside) (s : Shipper) :
    (s.step o).refusalsTold = s.refusalsTold := by
  unfold step
  split
  · rfl
  · dsimp only
    split
    · exact refusalsTold_publish s
    · split
      · rw [refusalsTold_lookUp, refusalsTold_publish]
      · unfold wait
        split
        · exact refusalsTold_publish s
        · exact refusalsTold_publish s
      · rw [refusalsTold_dial, refusalsTold_publish]
      · rw [refusalsTold_ship, refusalsTold_publish]

end Shipper

def refusalsTold (u : Uplink) : Nat :=
  u.shipper.refusalsTold

private theorem throttle_countRefusal (now : Nat) (u : Uplink) :
    (u.countRefusal now).throttle = (u.throttle.drop now).1 := by
  unfold countRefusal
  cases hreport : (u.throttle.drop now).2 <;> simp [hreport, onShipper]

private theorem refusalsTold_countRefusal (now : Nat) (u : Uplink) :
    (u.countRefusal now).refusalsTold =
      u.refusalsTold + Throttle.toldBy (u.throttle.drop now).2 := by
  unfold countRefusal refusalsTold
  cases hreport : (u.throttle.drop now).2 <;> simp [hreport, onShipper, Event.refusals]

theorem throttle_reportRefusals (now : Nat) (u : Uplink) :
    (u.reportRefusals now).throttle = (u.throttle.flush now).1 := by
  unfold reportRefusals
  cases hreport : (u.throttle.flush now).2 <;> simp [hreport, onShipper]

private theorem refusalsTold_reportRefusals (now : Nat) (u : Uplink) :
    (u.reportRefusals now).refusalsTold =
      u.refusalsTold + Throttle.toldBy (u.throttle.flush now).2 := by
  unfold reportRefusals refusalsTold
  cases hreport : (u.throttle.flush now).2 <;> simp [hreport, onShipper, Event.refusals]

def Move.isRefused (move : Move) (point : Point) (s : Shared) : Bool :=
  match move, point with
  | .send _ message, .idle =>
    !message.isEmpty && decide (s.uplink.settings.maxWaiting ≤ s.uplink.waiting)
  | _, _ => false

def Turn.refuses (turn : Turn) (s : Threads Shared Point) : Bool :=
  match turn with
  | caller i move => s.points[i]?.any fun point => move.isRefused point s.shared
  | _ => false

def Uses (u : Uplink) (refused : Bool) (u' : Uplink) : Prop :=
  Throttle.Use u.throttle u.refusalsTold refused u'.throttle u'.refusalsTold

private theorem uses_countRefusal (now : Nat) (u : Uplink) : u.Uses true (u.countRefusal now) :=
  Throttle.use_of_drop (throttle_countRefusal now u) (refusalsTold_countRefusal now u)

private theorem uses_reportRefusals (now : Nat) (u : Uplink) : u.Uses false
    (u.reportRefusals now) :=
  Throttle.use_of_flush (throttle_reportRefusals now u) (refusalsTold_reportRefusals now u)

private theorem uses_of_send {now : Nat} {message : String} {point' : Point} {s s' : Shared}
    (h : act (.send now message) .idle s = some (point', s')) :
    s.uplink.Uses (Move.isRefused (.send now message) .idle s) s'.uplink := by
  by_cases hempty : message.isEmpty
  · simp only [act, hempty, if_true, Option.some.injEq, Prod.mk.injEq] at h
    rw [← h.2, Move.isRefused, hempty]
    exact .leave
  · by_cases room : s.uplink.backlog.size < s.uplink.settings.maxWaiting
    · simp only [act, hempty, Bool.false_eq_true, if_false, admit?, Backlog.admit?, room, if_true,
        Option.map_some, Option.some.injEq, Prod.mk.injEq] at h
      have hwaiting : ¬s.uplink.settings.maxWaiting ≤ s.uplink.waiting := Nat.not_le.mpr room
      have hroom : Move.isRefused (.send now message) .idle s = false := by
        rw [Move.isRefused, decide_eq_false hwaiting, Bool.and_false]
      rw [← h.2, hroom]
      exact .leave
    · simp only [act, hempty, Bool.false_eq_true, if_false, admit?, Backlog.admit?, room,
        Option.map_none, Option.some.injEq, Prod.mk.injEq] at h
      have hwaiting : s.uplink.settings.maxWaiting ≤ s.uplink.waiting := Nat.le_of_not_lt room
      have hfull : Move.isRefused (.send now message) .idle s = true := by
        rw [Move.isRefused, decide_eq_true hwaiting, Bool.and_true]
        simpa using hempty
      rw [← h.2, hfull]
      exact uses_countRefusal now s.uplink

private theorem uses_of_act {move : Move} {point point' : Point} {s s' : Shared}
    (h : act move point s = some (point', s')) :
    s.uplink.Uses (move.isRefused point s) s'.uplink := by
  cases effect_of_act h with
  | sendEmpty now message => exact uses_of_send h
  | grant now message hmessage room => exact uses_of_send h
  | refuse now message throttle shipper full same => exact uses_of_send h
  | startFlush now throttle shipper same =>
      simp only [act, Option.some.injEq, Prod.mk.injEq, true_and] at h
      rw [← h]
      exact uses_reportRefusals now s.uplink
  | _ => exact .leave

private theorem isRefused_of_stuck {move : Move} {point : Point} {s : Shared}
    (h : act move point s = none) : move.isRefused point s = false := by
  cases move with
  | send now message =>
      cases point with
      | idle =>
          by_cases hempty : message.isEmpty
          · simp [act, hempty] at h
          · cases hadmit : s.uplink.admit? <;> simp [act, hempty, hadmit] at h
      | _ => rfl
  | _ => rfl

theorem uses_take (turn : Turn) (s : Threads Shared Point) :
    s.shared.uplink.Uses (turn.refuses s) (turn.take s).shared.uplink := by
  cases turn with
  | caller i move =>
      change s.shared.uplink.Uses _ (s.step act i move).shared.uplink
      rcases Threads.moves_or_stuck act i move s with
        ⟨point, point', shared', hpoint, hact, hstep⟩ | ⟨hstuck, hstep⟩
      · rw [hstep, Turn.refuses, hpoint]
        exact uses_of_act hact
      · have hnone : Turn.refuses (.caller i move) s = false := by
          rw [Turn.refuses]
          cases hpoint : s.points[i]? with
          | none => rfl
          | some point => exact isRefused_of_stuck (hstuck point hpoint)
        rw [hstep, hnone]
        exact .leave
  | relay =>
      unfold Turn.take
      cases hrelay : s.shared.uplink.relayStep? with
      | none => exact .leave
      | some uplink =>
          obtain ⟨next, -, rfl⟩ := Option.map_eq_some_iff.mp hrelay
          exact .leave
  | network o => exact Throttle.use_of_leave rfl (Shipper.refusalsTold_step o s.shared.uplink.shipper)

def refusedIn (settings : Settings) (now threads : Nat) (turns : List Turn) : Nat :=
  Throttle.refusals Turn.take Turn.refuses turns (.start (.new settings now) .idle threads)

theorem accounts_reached (settings : Settings) (now threads : Nat) (turns : List Turn) :
    let u := (reached settings now threads turns).shared.uplink
    u.throttle.Accounts (refusedIn settings now threads turns) u.refusalsTold := by
  have hstart := Throttle.accounts_new settings.warnInterval.millis now
  have haccounts := Throttle.accounts_run Turn.take Turn.refuses (fun s => s.shared.uplink.throttle)
    (fun s => s.shared.uplink.refusalsTold) uses_take turns
    (s := .start (.new settings now) .idle threads) hstart
  rwa [Nat.zero_add] at haccounts

theorem refusalsTold_retire (tick : Tick) (u : Uplink) :
    (u.retire tick).refusalsTold = u.refusalsTold :=
  Shipper.refusalsTold_step { tick, shutdown := true } u.shipper

end LogShipping.Uplink
