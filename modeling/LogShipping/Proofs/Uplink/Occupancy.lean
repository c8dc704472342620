import LogShipping.Proofs.Backlog.Admission
import LogShipping.Proofs.Uplink.Helm
import Mathlib.Data.List.Induction

namespace LogShipping

namespace Uplink

/-- It has a place in the queue for a message that is not yet there. -/
def Point.isStoring : Point → Nat
  | .admitted _ => 1
  | _ => 0

/-- Messages count and barriers do not, and `reserved` places are kept for messages still to be
stored. -/
structure Stocked (limit reserved : Nat) (queue : Backlog Parcel) : Prop where
  counted : ∀ entry ∈ queue.entries, entry.counted = entry.item.text?.isSome
  size_eq : queue.size = (texts queue).length + reserved
  size_le : queue.size ≤ limit

private theorem stocked_empty (limit : Nat) : Stocked limit 0 .empty := by
  refine ⟨?_, rfl, Nat.zero_le limit⟩
  intro entry hmem
  cases hmem

section

variable {limit reserved : Nat} {queue : Backlog Parcel}

private theorem Stocked.count (h : Stocked limit reserved queue) (room : queue.size < limit) :
    Stocked limit (reserved + 1) queue.count := by
  refine ⟨h.counted, ?_, room⟩
  have hsize := h.size_eq
  change queue.size + 1 = (texts queue).length + (reserved + 1)
  omega

private theorem Stocked.counted_store (h : Stocked limit reserved queue)
    {entry : Backlog.Entry Parcel} (hentry : entry.counted = entry.item.text?.isSome) :
    ∀ other ∈ (queue.store entry).entries, other.counted = other.item.text?.isSome := by
  intro other hmem
  rcases List.mem_append.mp hmem with hold | hnew
  · exact h.counted other hold
  · rw [List.mem_singleton.mp hnew]
    exact hentry

private theorem Stocked.store (h : Stocked limit (reserved + 1) queue) (message : String) :
    Stocked limit reserved (queue.store ⟨.text message, true⟩) := by
  refine ⟨h.counted_store rfl, ?_, h.size_le⟩
  have hsize := h.size_eq
  rw [texts_store_text, List.length_append, List.length_singleton, Backlog.size_store]
  omega

private theorem Stocked.pushBarrier (h : Stocked limit reserved queue) (id : Nat) :
    Stocked limit reserved (queue.pushUncounted (.barrier id)) := by
  refine ⟨h.counted_store rfl, ?_, h.size_le⟩
  rw [texts_pushUncounted_barrier, Backlog.size_pushUncounted]
  exact h.size_eq

private theorem Stocked.pop (h : Stocked limit reserved queue) {rest : Backlog Parcel}
    {parcel : Parcel} (popped : queue.pop? = some (parcel, rest)) :
    Stocked limit reserved rest := by
  obtain ⟨⟨entry, left⟩, taken, hrest⟩ := Option.map_eq_some_iff.mp popped
  obtain ⟨hleft, hentries⟩ := Backlog.take?_eq_some taken
  obtain ⟨rfl, rfl⟩ := Prod.mk.inj hrest
  have hcounted := h.counted entry (by rw [hentries]; exact List.mem_cons_self)
  have hsize := h.size_eq
  have hle := h.size_le
  have hitems := Backlog.items_pop? popped
  have hdiscount := Backlog.size_discount entry left
  rw [hcounted, hleft] at hdiscount
  refine ⟨?_, ?_, by omega⟩
  · intro other hmem
    apply h.counted
    rw [hentries]
    unfold Backlog.discount at hmem
    split at hmem <;> exact List.mem_cons_of_mem entry hmem
  · rw [texts, hitems, List.filterMap_cons] at hsize
    cases htext : entry.item.text? with
    | none =>
        simp only [htext, Option.isSome_none, Bool.false_eq_true, if_false] at hsize hdiscount
        rw [texts]
        omega
    | some message =>
        simp only [htext, Option.isSome_some, if_true, List.length_cons] at hsize hdiscount
        rw [texts]
        omega

private theorem Stocked.entry {a b : Account} (h : Stocked limit reserved a.queue)
    (hentry : Account.Entry a b) : Stocked limit reserved b.queue := by
  rcases hentry.queue_cases with ⟨hqueue, -, -⟩ | ⟨id, popped, -, -⟩ | ⟨message, popped, -, -⟩
  · rw [hqueue]
    exact h
  · exact h.pop popped
  · exact h.pop popped

end

theorem Stocked.of_effect {s : Threads Shared Point}
    (h : Stocked s.shared.uplink.settings.maxWaiting (s.total Point.isStoring)
      s.shared.uplink.backlog) {i : Nat} {move : Move} {point point' : Point}
    (hpoint : s.points[i]? = some point) {shared' : Shared}
    (heffect : Effect s.shared move point point' shared') :
    Stocked s.shared.uplink.settings.maxWaiting
      ((s.points.set i point').map Point.isStoring).sum shared'.uplink.backlog := by
  have hstoring := sum_map_set Point.isStoring hpoint point'
  unfold Threads.total at h
  cases heffect with
  | grant now message hmessage room =>
      simp only [Point.isStoring, Nat.add_zero] at hstoring
      rw [hstoring]
      exact h.count room
  | store message =>
      simp only [Point.isStoring, Nat.add_zero] at hstoring
      rw [← hstoring] at h
      exact h.store message
  | refuse now message throttle shipper full same =>
      have hqueue : shipper.backlog = s.shared.uplink.backlog := congrArg Account.queue same
      simp only [Point.isStoring, Nat.add_zero] at hstoring
      rw [hstoring, backlog, hqueue]
      exact h
  | startFlush now throttle shipper same =>
      have hqueue : shipper.backlog = s.shared.uplink.backlog := congrArg Account.queue same
      simp only [Point.isStoring, Nat.add_zero] at hstoring
      rw [hstoring, backlog, hqueue]
      exact h
  | _ =>
      simp only [Point.isStoring, Nat.add_zero] at hstoring
      rw [hstoring]
      exact h

theorem Stocked.taken {s s' : Threads Shared Point}
    (h : Stocked s.shared.uplink.settings.maxWaiting (s.total Point.isStoring)
      s.shared.uplink.backlog) (htaken : Taken s s') :
    Stocked s.shared.uplink.settings.maxWaiting (s'.total Point.isStoring)
      s'.shared.uplink.backlog := by
  cases htaken with
  | rest => exact h
  | caller hpoint effect => exact .of_effect h hpoint effect
  | relay relayed =>
      cases relayed with
      | take id rest free popped => exact h
      | stop rest free popped => exact h
      | pushBarrier id busy => exact h.pushBarrier id
  | network o =>
      have hentries := Shipper.entries_step s.shared.uplink.shipper o
      exact hentries.keeps (fun a b entry ha => Stocked.entry ha entry) h

theorem stocked_run (settings : Settings) (now threads : Nat) (turns : List Turn) :
    Stocked settings.maxWaiting ((reached settings now threads turns).total Point.isStoring)
      (reached settings now threads turns).shared.uplink.backlog := by
  induction turns using List.reverseRecOn with
  | nil =>
      have hnone : (reached settings now threads []).total Point.isStoring = 0 :=
        Threads.total_start Point.isStoring _ Point.idle threads
      rw [hnone]
      exact stocked_empty settings.maxWaiting
  | append_singleton before turn ih =>
      have hsettings : (reached settings now threads before).shared.uplink.settings = settings :=
        settings_shipperAfter settings now threads before
      rw [reached_concat]
      have htaken := taken_take turn (reached settings now threads before)
      generalize reached settings now threads before = first at hsettings ih htaken ⊢
      subst hsettings
      exact ih.taken htaken

theorem refused_iff {s : Threads Shared Point} {i : Nat} (hidle : s.points[i]? = some .idle)
    {message : String} (hmessage : message ≠ "") (time : Nat) :
    (s.step act i (.send time message)).points[i]? = some .idle ↔
      s.shared.uplink.settings.maxWaiting ≤ s.shared.uplink.backlog.size := by
  have hthread := (List.getElem?_eq_some_iff.mp hidle).1
  by_cases room : s.shared.uplink.backlog.size < s.shared.uplink.settings.maxWaiting
  · have hact : act (.send time message) .idle s.shared = some (.admitted message,
        { s.shared with uplink := s.shared.uplink.withBacklog s.shared.uplink.backlog.count }) := by
      simp [act, hmessage, admit?, Backlog.admit?, room, Backlog.count]
    simp only [Threads.step, hidle, hact, List.getElem?_set_self hthread]
    simpa using room
  · have hact : act (.send time message) .idle s.shared = some (.idle,
        { s.shared with uplink := s.shared.uplink.countRefusal time }) := by
      simp [act, hmessage, admit?, Backlog.admit?, room]
    simp only [Threads.step, hidle, hact, List.getElem?_set_self hthread]
    simpa using room

end Uplink

end LogShipping
