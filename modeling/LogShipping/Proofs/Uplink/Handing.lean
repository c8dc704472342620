import LogShipping.Dispatcher.Station
import LogShipping.Proofs.Uplink.FlushSoundness

namespace LogShipping.Uplink

private theorem Regular.withPoints {s : Threads Shared Point} (h : Regular s) {points : List Point}
    (hpoints : ∀ point ∈ points, point ∈ s.points ∨ point = .idle) :
    Regular { s with points } := by
  refine ⟨⟨h.accounted.settled, h.accounted.order_eq, ?_⟩, h.order, fun hfew => ?_⟩
  · intro message hmem
    rcases hpoints _ hmem with hold | hidle
    · exact h.accounted.admitted message hold
    · cases hidle
  · have hsound := h.sound hfew
    refine ⟨hsound.counter, hsound.accepted, hsound.latest, ?_, hsound.flushes⟩
    intro point hmem
    rcases hpoints _ hmem with hold | rfl
    · exact hsound.points point hold
    · trivial

/-- One more thread, in no call yet. -/
def join (s : Threads Shared Point) : Threads Shared Point :=
  { s with points := s.points ++ [.idle] }

private theorem Regular.join {s : Threads Shared Point} (h : Regular s) : Regular (join s) := by
  refine h.withPoints fun point hmem => ?_
  simpa using hmem

theorem joinFlush_eq_take (s : Threads Shared Point) (now : Nat) :
    (joinFlush s now).1 = Turn.take (.caller s.points.length (.flush now)) (join s) := by
  simp [joinFlush, join, Turn.take, Threads.step, act]

theorem handIn_eq_take (now : Nat) (message : String) (s : Threads Shared Point) :
    (handIn s now message).1 = s ∨
      ∃ move, (handIn s now message).1 = Turn.take (.caller 0 move) s := by
  unfold handIn
  split
  · split
    · exact .inr ⟨.resume, rfl⟩
    · exact .inl rfl
  · split
    · exact .inr ⟨.resume, rfl⟩
    · exact .inl rfl
  · exact .inr ⟨.send now message, rfl⟩

theorem accepted_handIn {now place : Nat} {message : String} {s : Threads Shared Point}
    (h : (handIn s now message).2 = some (.ok place)) :
    s.shared.order[place]? = some message ∧
      place ∈ (handIn s now message).1.shared.accepted := by
  unfold handIn at h ⊢
  split at h
  · split at h <;> cases h
  · rename_i place' hpoint
    split at h
    · rename_i horder
      obtain rfl : place' = place := by simpa using h
      simp [horder, Threads.step, hpoint, act, Shared.countAccepted]
    · cases h
  · rename_i hadmitted hstored
    simp only at h
    split at h <;> cases h

theorem Regular.joinFlush {s : Threads Shared Point} (h : Regular s) (now : Nat) :
    Regular (Uplink.joinFlush s now).1 := by
  rw [joinFlush_eq_take]
  exact h.join.take _

structure Grown (s s' : Threads Shared Point) : Prop where
  order : s.shared.order <+: s'.shared.order
  accepted : s.shared.accepted <+: s'.shared.accepted

theorem grown_take (turn : Turn) (s : Threads Shared Point) : Grown s (turn.take s) := by
  have htaken := taken_take turn s
  refine ⟨?_, (Later.of_taken htaken).accepted⟩
  generalize turn.take s = s' at htaken
  cases htaken with
  | rest => exact List.prefix_rfl
  | caller hpoint effect =>
      rcases effect.storage_cases with ⟨message, -, rfl⟩ | ⟨horder, -⟩
      · exact List.prefix_append _ _
      · exact horder ▸ List.prefix_rfl
  | relay relayed => exact List.prefix_rfl
  | network o => exact List.prefix_rfl

/-- If the thread with the number `ticket` is in a flush, it has to wait for the messages at
`places`. -/
def Promises (places : List Nat) (ticket : Nat) (s : Threads Shared Point) : Prop :=
  ∀ point promised, s.points[ticket]? = some point → point.promised? = some promised →
    places ⊆ promised

theorem Effect.promised?_cases {move : Move} {point point' : Point} {s s' : Shared}
    (h : Effect s move point point' s') {promised : List Nat}
    (hpromised : point'.promised? = some promised) :
    point.promised? = some promised ∨ promised = s.accepted := by
  cases h with
  | lock other free => exact .inl hpromised
  | share other latest known current => exact .inl hpromised
  | mark other outdated => exact .inl hpromised
  | makeBarrier accepted other => exact .inl hpromised
  | remember latest other => exact .inl hpromised
  | startFlush now throttle shipper same => exact .inr (Option.some.inj hpromised).symm
  | _ => cases hpromised

theorem Promises.take {s : Threads Shared Point} {places : List Nat} {ticket : Nat}
    (h : Promises places ticket s) (hplaces : places ⊆ s.shared.accepted) (turn : Turn) :
    Promises places ticket (turn.take s) := by
  have htaken := taken_take turn s
  generalize turn.take s = s' at htaken
  cases htaken with
  | rest => exact h
  | relay relayed => exact h
  | network o => exact h
  | @caller i move before after shared' hbefore effect =>
      intro point promised hpoint hpromised
      by_cases hi : i = ticket
      · subst hi
        have hset : (s.points.set i after)[i]? = some after :=
          List.getElem?_set_self (List.getElem?_eq_some_iff.mp hbefore).1
        obtain rfl := Option.some.inj (hset.symm.trans hpoint)
        -- The thread may have ended that flush and begun another one, which waits for even more.
        rcases effect.promised?_cases hpromised with hsame | rfl
        · exact h before promised hbefore hsame
        · exact hplaces
      · have hset : (s.points.set i after)[ticket]? = s.points[ticket]? :=
          List.getElem?_set_ne hi
        exact h point promised (hset.symm.trans hpoint) hpromised

theorem Promises.joinFlush {s : Threads Shared Point} {places : List Nat} {ticket : Nat}
    (h : Promises places ticket s) (hplaces : places ⊆ s.shared.accepted) (now : Nat) :
    Promises places ticket (Uplink.joinFlush s now).1 := by
  intro point promised hpoint hpromised
  have hjoined : (s.points ++ [.flushing s.shared.accepted])[ticket]? = some point := hpoint
  by_cases hticket : ticket < s.points.length
  · rw [List.getElem?_append_left hticket] at hjoined
    exact h point promised hjoined hpromised
  · rw [List.getElem?_append_right (Nat.not_lt.mp hticket)] at hjoined
    obtain rfl := List.mem_singleton.mp (List.mem_of_getElem? hjoined)
    obtain rfl : s.shared.accepted = promised := Option.some.inj hpromised
    exact hplaces

theorem promises_joinFlush {s : Threads Shared Point} {places : List Nat}
    (hplaces : places ⊆ s.shared.accepted) (now : Nat) :
    Promises places (Uplink.joinFlush s now).2 (Uplink.joinFlush s now).1 := by
  intro point promised hpoint hpromised
  have hjoined : (s.points ++ [.flushing s.shared.accepted])[s.points.length]? = some point := hpoint
  rw [List.getElem?_concat_length] at hjoined
  obtain rfl := Option.some.inj hjoined
  obtain rfl : s.shared.accepted = promised := Option.some.inj hpromised
  exact hplaces

theorem Promises.shipped {s : Threads Shared Point} {places : List Nat} {ticket : Nat}
    (hpromises : Promises places ticket s) (h : Regular s)
    (hfew : s.shared.accepted.length < UInt64.size) {ok : Bool}
    (hanswer : flushAnswer? s ticket = some ok) {place : Nat} (hplace : place ∈ places)
    {message : String} (hmessage : s.shared.order[place]? = some message) :
    s.shared.shipped[place]? = some message := by
  unfold flushAnswer? at hanswer
  split at hanswer
  · rename_i id promised hpoint
    have hguards : s.shared.account.Guards id place :=
      (h.sound hfew).points _ (List.mem_of_getElem? hpoint) place
        (hpromises _ promised hpoint rfl hplace)
    have hreleased : id ∈ s.shared.account.released := by
      by_cases hid : s.shared.uplink.isReleased id
      · exact List.contains_iff_mem.mp hid
      · simp [hid] at hanswer
    obtain ⟨taken, hordered, hshipped⟩ := shipped_of_lt h.accounted (hguards.released hreleased)
    rwa [Option.some.inj (hmessage.symm.trans hordered)]
  · cases hanswer

end LogShipping.Uplink
