import LogShipping.Proofs.Uplink.Account
import LogShipping.Uplink.Threads

namespace LogShipping

namespace Uplink

open Network

@[simp] theorem account_withBacklog (backlog : Backlog Parcel) (u : Uplink) :
    (u.withBacklog backlog).shipper.account = { u.shipper.account with queue := backlog } := rfl

private theorem countRefusal_eq (now : Nat) (u : Uplink) :
    ∃ throttle shipper, u.countRefusal now = { u with throttle, shipper } ∧
      shipper.account = u.shipper.account := by
  unfold countRefusal
  rcases u.throttle.drop now with ⟨throttle, report⟩
  cases report with
  | none => exact ⟨throttle, u.shipper, rfl, rfl⟩
  | some count => exact ⟨throttle, u.shipper.note _, rfl, Shipper.account_note _ u.shipper⟩

private theorem reportRefusals_eq (now : Nat) (u : Uplink) :
    ∃ throttle shipper, u.reportRefusals now = { u with throttle, shipper } ∧
      shipper.account = u.shipper.account := by
  unfold reportRefusals
  rcases u.throttle.flush now with ⟨throttle, report⟩
  cases report with
  | none => exact ⟨throttle, u.shipper, rfl, rfl⟩
  | some count => exact ⟨throttle, u.shipper.note _, rfl, Shipper.account_note _ u.shipper⟩

inductive Effect (s : Shared) : Move → Point → Point → Shared → Prop
  | sendEmpty (now : Nat) (message : String) : Effect s (.send now message) .idle .idle s
  | grant (now : Nat) (message : String) (hmessage : message ≠ "")
      (room : s.uplink.backlog.size < s.uplink.settings.maxWaiting) :
      Effect s (.send now message) .idle (.admitted message)
        { s with uplink := s.uplink.withBacklog s.uplink.backlog.count }
  | refuse (now : Nat) (message : String) (throttle : Throttle) (shipper : Shipper)
      (full : s.uplink.settings.maxWaiting ≤ s.uplink.backlog.size)
      (same : shipper.account = s.uplink.shipper.account) :
      Effect s (.send now message) .idle .idle
        { s with uplink := { s.uplink with throttle, shipper } }
  | store (message : String) :
      Effect s .resume (.admitted message) (.stored s.order.length) (s.store message)
  | countAccepted (place : Nat) :
      Effect s .resume (.stored place) .idle (s.countAccepted place)
  | startFlush (now : Nat) (throttle : Throttle) (shipper : Shipper)
      (same : shipper.account = s.uplink.shipper.account) :
      Effect s (.flush now) .idle (.flushing s.accepted)
        { s with uplink := { s.uplink with throttle, shipper } }
  | lock (promised : List Nat) (free : s.isLocked = false) :
      Effect s .resume (.flushing promised) (.locked promised) { s with isLocked := true }
  | share (promised : List Nat) (latest : Latest) (known : s.uplink.latest = some latest)
      (current : latest.acceptedAt = s.uplink.accepted) :
      Effect s .resume (.locked promised) (.waiting latest.id promised)
        { s with isLocked := false }
  | mark (promised : List Nat)
      (outdated : ∀ latest, s.uplink.latest = some latest →
        latest.acceptedAt ≠ s.uplink.accepted) :
      Effect s .resume (.locked promised) (.making s.uplink.accepted promised)
        { s with marks := s.marks ++ [s.uplink.accepted] }
  | makeBarrier (accepted : UInt64) (promised : List Nat) :
      Effect s .resume (.making accepted promised)
        (.made ⟨s.uplink.barriers, accepted⟩ promised)
        { s with uplink := s.uplink.makeBarrier.1 }
  | remember (latest : Latest) (promised : List Nat) :
      Effect s .resume (.made latest promised) (.waiting latest.id promised)
        { s with uplink := s.uplink.remember latest, isLocked := false }
  | pass (id : Nat) (promised : List Nat) (released : id ∈ s.uplink.shipper.released) :
      Effect s .resume (.waiting id promised) .idle (s.finish promised true)
  | giveUp (id : Nat) (promised : List Nat) :
      Effect s .giveUp (.waiting id promised) .idle (s.finish promised false)

private theorem effect_of_send {now : Nat} {message : String} {s s' : Shared} {point' : Point}
    (h : act (.send now message) .idle s = some (point', s')) :
    Effect s (.send now message) .idle point' s' := by
  by_cases hempty : message.isEmpty
  · simp only [act, hempty, if_true, Option.some.injEq, Prod.mk.injEq] at h
    obtain ⟨rfl, rfl⟩ := h
    exact .sendEmpty now message
  · by_cases room : s.uplink.backlog.size < s.uplink.settings.maxWaiting
    · simp only [act, hempty, Bool.false_eq_true, if_false, admit?, Backlog.admit?, room, if_true,
        Option.map_some, Option.some.injEq, Prod.mk.injEq] at h
      obtain ⟨rfl, rfl⟩ := h
      exact .grant now message (by simpa using hempty) room
    · simp only [act, hempty, Bool.false_eq_true, if_false, admit?, Backlog.admit?, room,
        Option.map_none, Option.some.injEq, Prod.mk.injEq] at h
      obtain ⟨throttle, shipper, hrefusal, same⟩ := countRefusal_eq now s.uplink
      obtain ⟨rfl, rfl⟩ := h
      rw [hrefusal]
      exact .refuse now message throttle shipper (Nat.le_of_not_lt room) same

private theorem effect_of_locked {promised : List Nat} {s s' : Shared} {point' : Point}
    (h : act .resume (.locked promised) s = some (point', s')) :
    Effect s .resume (.locked promised) point' s' := by
  cases hlatest : s.uplink.latest with
  | none =>
      simp only [act, shared?, hlatest, Option.bind_none, Option.some.injEq, Prod.mk.injEq] at h
      obtain ⟨rfl, rfl⟩ := h
      exact .mark promised (by simp [hlatest])
  | some latest =>
      by_cases current : latest.acceptedAt = s.uplink.accepted
      · simp only [act, shared?, hlatest, Option.bind_some, current, if_true, Option.some.injEq,
          Prod.mk.injEq] at h
        obtain ⟨rfl, rfl⟩ := h
        exact .share promised latest hlatest current
      · simp only [act, shared?, hlatest, Option.bind_some, current, if_false, Option.some.injEq,
          Prod.mk.injEq] at h
        obtain ⟨rfl, rfl⟩ := h
        exact .mark promised (by simpa [hlatest] using current)

theorem effect_of_act {move : Move} {point point' : Point} {s s' : Shared}
    (h : act move point s = some (point', s')) : Effect s move point point' s' := by
  cases move with
  | send now message =>
      cases point with
      | idle => exact effect_of_send h
      | _ => simp [act] at h
  | flush now =>
      cases point with
      | idle =>
          simp only [act, Option.some.injEq, Prod.mk.injEq] at h
          obtain ⟨throttle, shipper, hreport, same⟩ := reportRefusals_eq now s.uplink
          obtain ⟨rfl, rfl⟩ := h
          rw [hreport]
          exact .startFlush now throttle shipper same
      | _ => simp [act] at h
  | giveUp =>
      cases point with
      | waiting id promised =>
          simp only [act, Option.some.injEq, Prod.mk.injEq] at h
          obtain ⟨rfl, rfl⟩ := h
          exact .giveUp id promised
      | _ => simp [act] at h
  | resume =>
      cases point with
      | idle => simp [act] at h
      | admitted message =>
          simp only [act, Option.some.injEq, Prod.mk.injEq] at h
          obtain ⟨rfl, rfl⟩ := h
          exact .store message
      | stored place =>
          simp only [act, Option.some.injEq, Prod.mk.injEq] at h
          obtain ⟨rfl, rfl⟩ := h
          exact .countAccepted place
      | flushing promised =>
          by_cases hlocked : s.isLocked
          · simp [act, hlocked] at h
          · simp only [act, hlocked, Bool.false_eq_true, if_false, Option.some.injEq,
              Prod.mk.injEq] at h
            obtain ⟨rfl, rfl⟩ := h
            exact .lock promised (by simpa using hlocked)
      | locked promised => exact effect_of_locked h
      | making accepted promised =>
          simp only [act, Option.some.injEq, Prod.mk.injEq] at h
          obtain ⟨rfl, rfl⟩ := h
          exact .makeBarrier accepted promised
      | made latest promised =>
          simp only [act, Option.some.injEq, Prod.mk.injEq] at h
          obtain ⟨rfl, rfl⟩ := h
          exact .remember latest promised
      | waiting id promised =>
          by_cases hreleased : s.uplink.isReleased id
          · simp only [act, hreleased, if_true, Option.some.injEq, Prod.mk.injEq] at h
            obtain ⟨rfl, rfl⟩ := h
            exact .pass id promised (by simpa [isReleased] using hreleased)
          · simp [act, hreleased] at h

theorem account_store (message : String) (s : Shared) :
    (s.store message).uplink.shipper.account =
      { s.uplink.shipper.account with
        queue := s.uplink.backlog.store ⟨.text message, true⟩ } := rfl

theorem stored_store (message : String) (s : Shared) :
    (s.store message).uplink.shipper.account.stored =
      s.uplink.shipper.account.stored ++ [message] := by
  rw [account_store, Account.stored, texts_store_text, ← List.append_assoc]
  rfl

/-- A caller's move stores the message it was admitted with, or leaves all stored messages as they
are. -/
theorem Effect.storage_cases {move : Move} {point point' : Point} {s s' : Shared}
    (h : Effect s move point point' s') :
    (∃ message, point = .admitted message ∧ s' = s.store message) ∨
      s'.order = s.order ∧ ∃ queue, texts queue = texts s.uplink.backlog ∧
        s'.uplink.shipper.account = { s.uplink.shipper.account with queue } := by
  cases h with
  | store message => exact .inl ⟨message, rfl, rfl⟩
  | grant now message hmessage room => exact .inr ⟨rfl, s.uplink.backlog.count, rfl, rfl⟩
  | refuse now message throttle shipper full same => exact .inr ⟨rfl, s.uplink.backlog, rfl, same⟩
  | startFlush now throttle shipper same => exact .inr ⟨rfl, s.uplink.backlog, rfl, same⟩
  | sendEmpty now message => exact .inr ⟨rfl, s.uplink.backlog, rfl, rfl⟩
  | countAccepted place => exact .inr ⟨rfl, s.uplink.backlog, rfl, rfl⟩
  | lock promised free => exact .inr ⟨rfl, s.uplink.backlog, rfl, rfl⟩
  | share promised latest known current => exact .inr ⟨rfl, s.uplink.backlog, rfl, rfl⟩
  | mark promised outdated => exact .inr ⟨rfl, s.uplink.backlog, rfl, rfl⟩
  | makeBarrier accepted promised => exact .inr ⟨rfl, s.uplink.backlog, rfl, rfl⟩
  | remember latest promised => exact .inr ⟨rfl, s.uplink.backlog, rfl, rfl⟩
  | pass id promised released => exact .inr ⟨rfl, s.uplink.backlog, rfl, rfl⟩
  | giveUp id promised => exact .inr ⟨rfl, s.uplink.backlog, rfl, rfl⟩

inductive Relayed (u : Uplink) : Uplink → Prop
  | take (id : Nat) (rest : Backlog (Worker.Task Nat)) (free : u.relay.activity = .idle)
      (popped : u.relay.backlog.pop? = some (.run id, rest)) :
      Relayed u { u with relay := ⟨rest, .busy id⟩ }
  | stop (rest : Backlog (Worker.Task Nat)) (free : u.relay.activity = .idle)
      (popped : u.relay.backlog.pop? = some (.stop, rest)) :
      Relayed u { u with relay := ⟨rest, .stopped⟩ }
  | pushBarrier (id : Nat) (busy : u.relay.activity = .busy id) :
      Relayed u
        { u.withBacklog (u.backlog.pushUncounted (.barrier id)) with
          relay := { u.relay with activity := .idle } }

theorem relayed_of_relayStep? {u u' : Uplink} (h : u.relayStep? = some u') : Relayed u u' := by
  simp only [relayStep?, Option.map_eq_some_iff, Prod.exists] at h
  obtain ⟨relay, backlog, hstep, rfl⟩ := h
  unfold Worker.step? at hstep
  cases hactivity : u.relay.activity with
  | idle =>
      simp only [hactivity, Worker.take?] at hstep
      cases hpop : u.relay.backlog.pop? with
      | none => simp [hpop] at hstep
      | some popped =>
          obtain ⟨task, rest⟩ := popped
          cases task with
          | run id =>
              simp only [hpop, Option.map_some, Option.some.injEq, Prod.mk.injEq] at hstep
              obtain ⟨rfl, rfl⟩ := hstep
              exact .take id rest hactivity hpop
          | stop =>
              simp only [hpop, Option.map_some, Option.some.injEq, Prod.mk.injEq] at hstep
              obtain ⟨rfl, rfl⟩ := hstep
              exact .stop rest hactivity hpop
  | busy id =>
      simp only [hactivity, relayAct, Option.some.injEq, Prod.mk.injEq] at hstep
      obtain ⟨rfl, rfl⟩ := hstep
      exact .pushBarrier id hactivity
  | stopped => simp [hactivity] at hstep
  | crashed => simp [hactivity] at hstep

theorem Relayed.account_eq {u u' : Uplink} (h : Relayed u u') :
    ∃ queue, texts queue = texts u.backlog ∧
      u'.shipper.account = { u.shipper.account with queue } := by
  cases h with
  | take id rest free popped => exact ⟨u.backlog, rfl, rfl⟩
  | stop rest free popped => exact ⟨u.backlog, rfl, rfl⟩
  | pushBarrier id busy => exact ⟨_, texts_pushUncounted_barrier id u.backlog, rfl⟩

def reached (settings : Settings) (now threads : Nat) (turns : List Turn) : Threads Shared Point :=
  runTurns turns (.start (.new settings now) .idle threads)

theorem reached_append (settings : Settings) (now threads : Nat) (turns later : List Turn) :
    reached settings now threads (turns ++ later) =
      runTurns later (reached settings now threads turns) := by
  simp [reached, runTurns]

inductive Taken (s : Threads Shared Point) : Threads Shared Point → Prop
  | rest : Taken s s
  | caller {i : Nat} {move : Move} {point point' : Point} {shared' : Shared}
      (hpoint : s.points[i]? = some point) (effect : Effect s.shared move point point' shared') :
      Taken s ⟨shared', s.points.set i point'⟩
  | relay {uplink : Uplink} (relayed : Relayed s.shared.uplink uplink) :
      Taken s { s with shared := { s.shared with uplink } }
  | network (o : Outside) :
      Taken s { s with shared := { s.shared with uplink := s.shared.uplink.step o } }

theorem taken_take (turn : Turn) (s : Threads Shared Point) : Taken s (turn.take s) := by
  cases turn with
  | caller i move =>
      change Taken s (s.step act i move)
      rcases Threads.step_cases act i move s with hrest | hmove
      · rw [hrest]
        exact .rest
      · obtain ⟨point, point', shared', hpoint, hact, hstep⟩ := hmove
        rw [hstep]
        exact .caller hpoint (effect_of_act hact)
  | relay =>
      unfold Turn.take
      cases hrelay : s.shared.uplink.relayStep? with
      | none => exact .rest
      | some uplink => exact .relay (relayed_of_relayStep? hrelay)
  | network o => exact .network o

end Uplink

end LogShipping
