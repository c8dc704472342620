import LogShipping.Proofs.Uplink.Turns

namespace LogShipping

namespace Uplink

def Parcel.barrier? : Parcel → Option Nat
  | text _ => none
  | barrier id => some id

def Task.barrier? : Worker.Task Nat → Option Nat
  | .run id => some id
  | .stop => none

def Activity.barrier? : Worker.Activity Nat → Option Nat
  | .busy id => some id
  | _ => none

def barriersIn (queue : Backlog Parcel) : List Nat :=
  queue.items.filterMap Parcel.barrier?

/-- The barriers that the flush worker has yet to put into the queue, oldest first. -/
def barriersAhead (relay : Worker Nat) : List Nat :=
  (Activity.barrier? relay.activity).toList ++ relay.backlog.items.filterMap Task.barrier?

@[simp] theorem barriersIn_store_text (message : String) (queue : Backlog Parcel) :
    barriersIn (queue.store ⟨.text message, true⟩) = barriersIn queue := by
  simp [barriersIn, Backlog.items, Backlog.store, Parcel.barrier?]

@[simp] theorem barriersIn_pushUncounted_barrier (id : Nat) (queue : Backlog Parcel) :
    barriersIn (queue.pushUncounted (.barrier id)) = barriersIn queue ++ [id] := by
  simp [barriersIn, Parcel.barrier?]

namespace Account

def barriers (a : Account) : List Nat :=
  a.released ++ barriersIn a.queue

/-- The barrier is not passed before the message at `place` is taken. -/
structure Guards (a : Account) (id place : Nat) : Prop where
  released : id ∈ a.released → place < a.shipped.length
  queued : ∀ before after, a.queue.items = before ++ .barrier id :: after →
    place < a.shipped.length + (before.filterMap Parcel.text?).length
  stored : place < a.stored.length

theorem Guards.entry {a b : Account} {id place : Nat} (hentry : Entry a b)
    (h : Guards a id place) : Guards b id place := by
  have hstored : place < b.stored.length := by
    rw [hentry.stored_eq]
    exact h.stored
  rcases hentry.queue_cases with ⟨hqueue, hreleased, hshipped⟩ |
    ⟨passed, popped, hreleased, hshipped⟩ | ⟨message, popped, hreleased, hshipped⟩
  · refine ⟨?_, ?_, hstored⟩
    · rw [hreleased, hshipped]
      exact h.released
    · rw [hqueue, hshipped]
      exact h.queued
  · have hitems := Backlog.items_pop? popped
    refine ⟨?_, ?_, hstored⟩
    · rw [hreleased, hshipped]
      intro hmem
      rcases List.mem_append.mp hmem with hold | hnew
      · exact h.released hold
      · have hid : id = passed := List.mem_singleton.mp hnew
        subst hid
        exact h.queued [] b.queue.items hitems
    · intro before after hsplit
      rw [hshipped]
      have hbefore := h.queued (.barrier passed :: before) after (by rw [hitems, hsplit]; rfl)
      exact hbefore
  · have hitems := Backlog.items_pop? popped
    refine ⟨?_, ?_, hstored⟩
    · rw [hreleased, hshipped, List.length_append]
      intro hmem
      have hplace := h.released hmem
      omega
    · intro before after hsplit
      have hbefore := h.queued (.text message :: before) after (by rw [hitems, hsplit]; rfl)
      simp only [List.filterMap_cons, Parcel.text?, List.length_cons] at hbefore
      rw [hshipped, List.length_append, List.length_singleton]
      omega

/-- A barrier that has not reached the queue guards everything stored so far. -/
theorem guards_of_not_mem {a : Account} {id place : Nat} (hid : id ∉ a.barriers)
    (hplace : place < a.stored.length) : Guards a id place := by
  rw [barriers, List.mem_append, not_or] at hid
  refine ⟨fun hmem => absurd hmem hid.1, ?_, hplace⟩
  intro before after hsplit
  apply absurd _ hid.2
  simp [barriersIn, hsplit, Parcel.barrier?]

theorem Guards.push {a : Account} {id place : Nat} (h : Guards a id place)
    {queue : Backlog Parcel} {parcel : Parcel} (hitems : queue.items = a.queue.items ++ [parcel]) :
    Guards { a with queue } id place := by
  have htexts : texts queue = texts a.queue ++ [parcel].filterMap Parcel.text? := by
    rw [texts, hitems, List.filterMap_append]
    rfl
  refine ⟨h.released, ?_, ?_⟩
  · -- If the barrier is the parcel that was pushed, everything stored is before it. Otherwise the
    -- parcel is at the end of what follows the barrier.
    intro before after hsplit
    have hsplit' : a.queue.items ++ [parcel] = before ++ .barrier id :: after := hitems ▸ hsplit
    rcases List.eq_nil_or_concat after with rfl | ⟨middle, last, rfl⟩
    · obtain ⟨hbefore, -⟩ := List.append_inj' hsplit' rfl
      rw [← hbefore]
      have hstored := h.stored
      rw [Account.stored, List.length_append] at hstored
      exact hstored
    · rw [List.concat_eq_append, ← List.cons_append, ← List.append_assoc] at hsplit'
      exact h.queued before middle (List.append_inj' hsplit' rfl).1
  · have hstored := h.stored
    rw [Account.stored, List.length_append] at hstored ⊢
    rw [htexts, List.length_append]
    exact Nat.lt_of_lt_of_le hstored (Nat.add_le_add_left (Nat.le_add_right _ _) _)

theorem Guards.withSameItems {a : Account} {id place : Nat} (h : Guards a id place)
    {queue : Backlog Parcel} (hitems : queue.items = a.queue.items) :
    Guards { a with queue } id place := by
  refine ⟨h.released, ?_, ?_⟩
  · intro before after hsplit
    exact h.queued before after (hitems ▸ hsplit)
  · have hstored := h.stored
    rw [Account.stored, texts, ← hitems] at hstored
    exact hstored

private theorem Entry.barriers_eq {a b : Account} (h : Entry a b) : b.barriers = a.barriers := by
  unfold barriers
  rcases h.queue_cases with ⟨hqueue, hreleased, -⟩ | ⟨id, popped, hreleased, -⟩ |
    ⟨message, popped, hreleased, -⟩
  · rw [hqueue, hreleased]
  · rw [hreleased, barriersIn, barriersIn, Backlog.items_pop? popped, List.append_assoc]
    rfl
  · rw [hreleased, barriersIn, barriersIn, Backlog.items_pop? popped]
    rfl

end Account

def issued (u : Uplink) : List Nat :=
  u.shipper.account.barriers ++ barriersAhead u.relay

theorem issued_step (u : Uplink) (o : Outside) : issued (u.step o) = issued u := by
  have hbarriers := (Shipper.entries_step u.shipper o).keeps
    (P := fun a => a.barriers = u.shipper.account.barriers)
    (fun a b entry ha => entry.barriers_eq.trans ha) rfl
  exact congrArg (· ++ barriersAhead u.relay) hbarriers

private theorem issued_relayed {u u' : Uplink} (h : Relayed u u') : issued u' = issued u := by
  cases h with
  | take id rest free popped =>
      simp [issued, barriersAhead, Activity.barrier?, free, Backlog.items_pop? popped,
        Task.barrier?]
  | stop rest free popped =>
      have hstop : Task.barrier? .stop = none := rfl
      simp [issued, barriersAhead, Activity.barrier?, free, Backlog.items_pop? popped,
        hstop]
  | pushBarrier id busy =>
      have hqueue : barriersIn (u.backlog.pushUncounted (.barrier id)) =
          barriersIn u.shipper.account.queue ++ [id] := barriersIn_pushUncounted_barrier id _
      simp [issued, barriersAhead, Account.barriers, Activity.barrier?, busy, hqueue]

private theorem issued_makeBarrier (u : Uplink) :
    issued u.makeBarrier.1 = issued u ++ [u.barriers] := by
  simp [issued, barriersAhead, makeBarrier, Worker.submit, Task.barrier?]

/-- The row of barriers has no gap, and every barrier has one place in it. -/
def InOrder (u : Uplink) : Prop :=
  issued u = List.range u.barriers

private theorem Effect.inOrder {move : Move} {point point' : Point} {s s' : Shared}
    (h : Effect s move point point' s') (horder : InOrder s.uplink) : InOrder s'.uplink := by
  unfold InOrder at horder ⊢
  cases h with
  | makeBarrier accepted promised =>
      rw [issued_makeBarrier, horder]
      exact List.range_succ.symm
  | refuse now message throttle shipper full same =>
      rw [issued, same]
      exact horder
  | startFlush now throttle shipper same =>
      rw [issued, same]
      exact horder
  | store message =>
      have hqueue : barriersIn (s.uplink.backlog.store ⟨.text message, true⟩) =
          barriersIn s.uplink.backlog := barriersIn_store_text message _
      rw [issued, account_store, Account.barriers, hqueue]
      exact horder
  | _ => exact horder

private theorem InOrder.relayed {u u' : Uplink} (h : InOrder u) (hrelayed : Relayed u u') :
    InOrder u' := by
  have hbarriers : u'.barriers = u.barriers := by
    cases hrelayed <;> rfl
  unfold InOrder
  rw [issued_relayed hrelayed, hbarriers]
  exact h

theorem InOrder.not_mem_barriers {u : Uplink} (h : InOrder u) :
    u.barriers ∉ u.shipper.account.barriers := by
  intro hmem
  have hissued : u.barriers ∈ issued u := List.mem_append_left _ hmem
  rw [h, List.mem_range] at hissued
  exact Nat.lt_irrefl _ hissued

theorem InOrder.taken {s s' : Threads Shared Point} (h : InOrder s.shared.uplink)
    (htaken : Taken s s') : InOrder s'.shared.uplink := by
  cases htaken with
  | rest => exact h
  | caller hpoint effect => exact effect.inOrder h
  | relay relayed => exact h.relayed relayed
  | network o => exact (issued_step s.shared.uplink o).trans h

theorem inOrder_run (settings : Settings) (now threads : Nat) (turns : List Turn) :
    InOrder (reached settings now threads turns).shared.uplink :=
  runTurns_induction (P := fun s => InOrder s.shared.uplink)
    (fun s turn h => h.taken (taken_take turn s)) turns rfl

end Uplink

end LogShipping
