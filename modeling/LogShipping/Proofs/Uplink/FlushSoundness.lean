import LogShipping.Proofs.Uplink.Barriers
import LogShipping.Proofs.Uplink.Delivery
import Mathlib.Data.List.Infix

/-!
A flush that succeeds has been waited for by nobody in vain: every message that its sender knew to
be accepted when the flush began has been taken from the queue.

The counter of accepted messages runs behind the queue, and barriers run behind the counter. What
carries the argument is that a barrier, wherever it is, guards all messages that had been counted
when its mark was read, so that a flush which reads the same mark may share it.
-/

namespace LogShipping

namespace Uplink

open Network

def Shared.account (s : Shared) : Account :=
  s.uplink.shipper.account

/-- What never gets lost as a run goes on. -/
structure Later (s s' : Shared) : Prop where
  accepted : s.accepted <+: s'.accepted
  stored : s.account.stored.length ≤ s'.account.stored.length
  shipped : s.account.shipped.length ≤ s'.account.shipped.length
  released : s.account.released ⊆ s'.account.released
  guards : ∀ id place, s.account.Guards id place → s'.account.Guards id place

private theorem Later.of_account_eq {s s' : Shared} (haccount : s'.account = s.account)
    (haccepted : s.accepted <+: s'.accepted) : Later s s' := by
  refine ⟨haccepted, ?_, ?_, ?_, ?_⟩
  · exact Nat.le_of_eq (by rw [haccount])
  · exact Nat.le_of_eq (by rw [haccount])
  · rw [haccount]
    exact List.Subset.refl _
  · intro id place h
    rw [haccount]
    exact h

theorem Later.of_effect {move : Move} {point point' : Point} {s s' : Shared}
    (h : Effect s move point point' s') : Later s s' := by
  cases h with
  | grant now message hmessage room =>
      exact ⟨List.prefix_rfl, Nat.le_refl _, Nat.le_refl _, List.Subset.refl _,
        fun _ _ h => h.withSameItems rfl⟩
  | store message =>
      refine ⟨List.prefix_rfl, ?_, Nat.le_refl _, List.Subset.refl _, ?_⟩
      · have hstored := stored_store message s
        unfold Shared.account
        rw [hstored, List.length_append]
        exact Nat.le_add_right _ _
      · intro id place h
        have hpushed : Account.Guards
            { s.account with queue := s.uplink.backlog.store ⟨.text message, true⟩ } id place :=
          h.push (Backlog.items_store ⟨.text message, true⟩ s.uplink.backlog)
        exact hpushed
  | refuse now message throttle shipper full same =>
      exact .of_account_eq same List.prefix_rfl
  | startFlush now throttle shipper same => exact .of_account_eq same List.prefix_rfl
  | countAccepted place => exact .of_account_eq rfl (List.prefix_append _ _)
  | _ => exact .of_account_eq rfl List.prefix_rfl

private theorem Later.of_relayed {s : Shared} {uplink : Uplink} (h : Relayed s.uplink uplink) :
    Later s { s with uplink } := by
  cases h with
  | take id rest free popped => exact .of_account_eq rfl List.prefix_rfl
  | stop rest free popped => exact .of_account_eq rfl List.prefix_rfl
  | pushBarrier id busy =>
      refine ⟨List.prefix_rfl, ?_, Nat.le_refl _, List.Subset.refl _, ?_⟩
      · have htexts := texts_pushUncounted_barrier id s.uplink.backlog
        refine Nat.le_of_eq (congrArg List.length ?_)
        exact congrArg (s.account.shipped ++ ·) htexts.symm
      · intro other place hguards
        have hpushed : Account.Guards
            { s.account with queue := s.uplink.backlog.pushUncounted (.barrier id) } other place :=
          hguards.push (Backlog.items_pushUncounted (.barrier id) s.uplink.backlog)
        exact hpushed

theorem Later.of_step (s : Shared) (o : Outside) :
    Later s { s with uplink := s.uplink.step o } := by
  have hentries := Shipper.entries_step s.uplink.shipper o
  refine ⟨List.prefix_rfl, ?_, ?_, ?_, ?_⟩
  · refine hentries.keeps (P := fun a => s.account.stored.length ≤ a.stored.length) ?_
      (Nat.le_refl _)
    intro a b entry ha
    rw [entry.stored_eq]
    exact ha
  · refine hentries.keeps (P := fun a => s.account.shipped.length ≤ a.shipped.length) ?_
      (Nat.le_refl _)
    intro a b entry ha
    rcases entry.queue_cases with ⟨-, -, hshipped⟩ | ⟨_, -, -, hshipped⟩ | ⟨_, -, -, hshipped⟩
    · rw [hshipped]
      exact ha
    · rw [hshipped]
      exact ha
    · rw [hshipped, List.length_append]
      exact Nat.le_add_right_of_le ha
  · refine hentries.keeps (P := fun a => s.account.released ⊆ a.released) ?_
      (List.Subset.refl _)
    intro a b entry ha
    rcases entry.queue_cases with ⟨-, hreleased, -⟩ | ⟨_, -, hreleased, -⟩ | ⟨_, -, hreleased, -⟩
    · rw [hreleased]
      exact ha
    · rw [hreleased]
      exact List.subset_append_of_subset_left _ ha
    · rw [hreleased]
      exact ha
  · intro id place h
    exact hentries.keeps (P := fun a => a.Guards id place) (fun a b entry ha => ha.entry entry) h

/-- The barrier guards all messages that had been counted at its mark. -/
structure Covered (s : Shared) (latest : Latest) : Prop where
  le : latest.acceptedAt.toNat ≤ s.accepted.length
  guards : ∀ place ∈ s.accepted.take latest.acceptedAt.toNat, s.account.Guards latest.id place

private theorem take_counted {accepted accepted' : List Nat} (h : accepted <+: accepted')
    {count : Nat} (hcount : count ≤ accepted.length) :
    accepted'.take count = accepted.take count := by
  obtain ⟨rest, rfl⟩ := h
  exact List.take_append_of_le_length hcount

private theorem Covered.later {s s' : Shared} {latest : Latest} (h : Covered s latest)
    (hlater : Later s s') : Covered s' latest := by
  refine ⟨Nat.le_trans h.le hlater.accepted.length_le, ?_⟩
  rw [take_counted hlater.accepted h.le]
  intro place hplace
  exact hlater.guards _ _ (h.guards place hplace)

/-- What a thread can rely on at the point where it is. -/
def Kept (s : Shared) : Point → Prop
  | .stored place => place < s.account.stored.length
  | .flushing promised => promised ⊆ s.accepted
  | .locked promised => promised ⊆ s.accepted
  | .making accepted promised =>
      accepted.toNat ≤ s.accepted.length ∧ promised ⊆ s.accepted.take accepted.toNat
  | .made latest promised =>
      Covered s latest ∧ promised ⊆ s.accepted.take latest.acceptedAt.toNat
  | .waiting id promised => ∀ place ∈ promised, s.account.Guards id place
  | _ => True

private theorem Kept.later {s s' : Shared} {point : Point} (h : Kept s point)
    (hlater : Later s s') : Kept s' point := by
  cases point with
  | idle => trivial
  | admitted message => trivial
  | stored place => exact Nat.lt_of_lt_of_le h hlater.stored
  | flushing promised => exact List.Subset.trans h hlater.accepted.subset
  | locked promised => exact List.Subset.trans h hlater.accepted.subset
  | making accepted promised =>
      refine ⟨Nat.le_trans h.1 hlater.accepted.length_le, ?_⟩
      rw [take_counted hlater.accepted h.1]
      exact h.2
  | made latest promised =>
      refine ⟨h.1.later hlater, ?_⟩
      rw [take_counted hlater.accepted h.1.le]
      exact h.2
  | waiting id promised =>
      intro place hplace
      exact hlater.guards id place (h place hplace)

structure Sound (s : Threads Shared Point) : Prop where
  counter : s.shared.uplink.accepted = UInt64.ofNat s.shared.accepted.length
  accepted : ∀ place ∈ s.shared.accepted, place < s.shared.account.stored.length
  latest : ∀ latest, s.shared.uplink.latest = some latest → Covered s.shared latest
  points : ∀ point ∈ s.points, Kept s.shared point
  flushes : ∀ outcome ∈ s.shared.flushes, outcome.flushed = true →
    ∀ place ∈ outcome.promised, place < s.shared.account.shipped.length

theorem toNat_counter {s : Threads Shared Point} (h : Sound s)
    (hfew : s.shared.accepted.length < UInt64.size) :
    s.shared.uplink.accepted.toNat = s.shared.accepted.length := by
  rw [h.counter]
  exact UInt64.toNat_ofNat_of_lt hfew

theorem Sound.kept_of_effect {s : Threads Shared Point} (h : Sound s)
    (hfew : s.shared.accepted.length < UInt64.size)
    (horder : s.shared.order = s.shared.account.stored) (hrow : InOrder s.shared.uplink)
    {move : Move} {point point' : Point} {s' : Shared}
    (heffect : Effect s.shared move point point' s') (hpoint : Kept s.shared point) :
    Kept s' point' := by
  have hcounter := toNat_counter h hfew
  cases heffect with
  | sendEmpty now message => trivial
  | grant now message hmessage room => trivial
  | refuse now message throttle shipper full same => trivial
  | store message =>
      have hstored := stored_store message s.shared
      unfold Kept Shared.account
      rw [hstored, horder, List.length_append, List.length_singleton]
      exact Nat.lt_succ_self _
  | countAccepted place => trivial
  | startFlush now throttle shipper same => exact List.Subset.refl _
  | lock promised free => exact hpoint
  | share promised latest known current =>
      -- The counter stands where it stood at the mark, so the older barrier covers all that has
      -- been counted since, and that includes what this flush has promised.
      intro place hplace
      have hcovered := h.latest latest known
      apply hcovered.guards
      rw [current, hcounter, List.take_length]
      exact hpoint hplace
  | mark promised outdated =>
      refine ⟨Nat.le_of_eq hcounter, ?_⟩
      rw [hcounter, List.take_length]
      exact hpoint
  | makeBarrier accepted promised =>
      refine ⟨⟨hpoint.1, ?_⟩, hpoint.2⟩
      -- The barrier is new: it will reach the queue behind everything that is stored already.
      intro place hplace
      have hstored := h.accepted place (List.mem_of_mem_take hplace)
      exact Account.guards_of_not_mem hrow.not_mem_barriers hstored
  | remember latest promised =>
      intro place hplace
      exact hpoint.1.guards place (hpoint.2 hplace)
  | pass id promised released => trivial
  | giveUp id promised => trivial

theorem Sound.latest_of_effect {s : Threads Shared Point} (h : Sound s) {move : Move}
    {point point' : Point} {s' : Shared} (heffect : Effect s.shared move point point' s')
    (hpoint : Kept s.shared point) (latest : Latest) (hlatest : s'.uplink.latest = some latest) :
    Covered s' latest := by
  have hlater := Later.of_effect heffect
  cases heffect with
  | remember made promised =>
      have hmade : made = latest := Option.some.inj hlatest
      subst hmade
      exact hpoint.1.later hlater
  | _ => exact (h.latest latest hlatest).later hlater

theorem Sound.accepted_of_effect {s : Threads Shared Point} (h : Sound s) {move : Move}
    {point point' : Point} {s' : Shared} (heffect : Effect s.shared move point point' s')
    (hpoint : Kept s.shared point) :
    s'.uplink.accepted = UInt64.ofNat s'.accepted.length ∧
      ∀ place ∈ s'.accepted, place < s'.account.stored.length := by
  have hlater := Later.of_effect heffect
  cases heffect with
  | countAccepted place =>
      refine ⟨?_, ?_⟩
      · have hcounter := h.counter
        simp only [Shared.countAccepted, countAccepted, List.length_append,
          List.length_singleton, UInt64.ofNat_add, hcounter]
        rfl
      · intro other hmem
        rcases List.mem_append.mp hmem with hold | hnew
        · exact h.accepted other hold
        · rw [List.mem_singleton.mp hnew]
          exact hpoint
  | _ =>
      refine ⟨h.counter, ?_⟩
      intro other hmem
      exact Nat.lt_of_lt_of_le (h.accepted other hmem) hlater.stored

theorem Sound.flushes_of_effect {s : Threads Shared Point} (h : Sound s) {move : Move}
    {point point' : Point} {s' : Shared} (heffect : Effect s.shared move point point' s')
    (hpoint : Kept s.shared point) :
    ∀ outcome ∈ s'.flushes, outcome.flushed = true →
      ∀ place ∈ outcome.promised, place < s'.account.shipped.length := by
  have hlater := Later.of_effect heffect
  intro outcome hmem hflushed place hplace
  cases heffect with
  | pass id promised released =>
      rcases List.mem_append.mp hmem with hold | hnew
      · exact h.flushes outcome hold hflushed place hplace
      · rw [List.mem_singleton.mp hnew] at hplace
        exact (hpoint place hplace).released released
  | giveUp id promised =>
      rcases List.mem_append.mp hmem with hold | hnew
      · exact h.flushes outcome hold hflushed place hplace
      · rw [List.mem_singleton.mp hnew] at hflushed
        cases hflushed
  | _ =>
      exact Nat.lt_of_lt_of_le (h.flushes outcome hmem hflushed place hplace) hlater.shipped

private theorem Sound.withUplink {s : Threads Shared Point} (h : Sound s) {uplink : Uplink}
    (hlater : Later s.shared { s.shared with uplink })
    (hcounter : uplink.accepted = s.shared.uplink.accepted)
    (hlatest : uplink.latest = s.shared.uplink.latest) :
    Sound { s with shared := { s.shared with uplink } } := by
  refine ⟨hcounter.trans h.counter, ?_, ?_, ?_, ?_⟩
  · intro place hmem
    exact Nat.lt_of_lt_of_le (h.accepted place hmem) hlater.stored
  · intro latest hknown
    exact (h.latest latest (hlatest.symm.trans hknown)).later hlater
  · intro point hmem
    exact (h.points point hmem).later hlater
  · intro outcome hmem hflushed place hplace
    exact Nat.lt_of_lt_of_le (h.flushes outcome hmem hflushed place hplace) hlater.shipped

theorem Sound.taken {s s' : Threads Shared Point} (h : Sound s)
    (hfew : s.shared.accepted.length < UInt64.size)
    (horder : s.shared.order = s.shared.account.stored)
    (hrow : InOrder s.shared.uplink) (htaken : Taken s s') : Sound s' := by
  cases htaken with
  | rest => exact h
  | caller hpoint effect =>
      have hkept := h.points _ (List.mem_of_getElem? hpoint)
      obtain ⟨hcounter, haccepted⟩ := h.accepted_of_effect effect hkept
      refine ⟨hcounter, haccepted, h.latest_of_effect effect hkept, ?_,
        h.flushes_of_effect effect hkept⟩
      intro other hmem
      rcases List.mem_or_eq_of_mem_set hmem with hold | hnew
      · exact (h.points other hold).later (.of_effect effect)
      · rw [hnew]
        exact h.kept_of_effect hfew horder hrow effect hkept
  | relay relayed =>
      refine h.withUplink (.of_relayed relayed) ?_ ?_
      · cases relayed <;> rfl
      · cases relayed <;> rfl
  | network o => exact h.withUplink (.of_step s.shared o) rfl rfl

private theorem Later.refl (s : Shared) : Later s s :=
  .of_account_eq rfl List.prefix_rfl

private theorem Later.trans {first second third : Shared} (h : Later first second)
    (h' : Later second third) : Later first third where
  accepted := h.accepted.trans h'.accepted
  stored := Nat.le_trans h.stored h'.stored
  shipped := Nat.le_trans h.shipped h'.shipped
  released := List.Subset.trans h.released h'.released
  guards := fun id place hguards => h'.guards id place (h.guards id place hguards)

theorem Later.of_taken {s s' : Threads Shared Point} (htaken : Taken s s') :
    Later s.shared s'.shared := by
  cases htaken with
  | rest => exact .refl s.shared
  | caller hpoint effect => exact .of_effect effect
  | relay relayed => exact .of_relayed relayed
  | network o => exact .of_step s.shared o

theorem sound_start (settings : Settings) (now threads : Nat) :
    Sound (.start (.new settings now) .idle threads) := by
  refine ⟨rfl, ?_, ?_, ?_, ?_⟩
  · intro place hmem
    cases hmem
  · intro latest hlatest
    cases hlatest
  · intro point hmem
    rw [List.eq_of_mem_replicate hmem]
    trivial
  · intro outcome hmem
    cases hmem

/-- What every turn keeps as long as the counter does not wrap around. -/
structure Regular (s : Threads Shared Point) : Prop where
  accounted : Accounted s
  order : InOrder s.shared.uplink
  sound : s.shared.accepted.length < UInt64.size → Sound s

theorem regular_start (settings : Settings) (now threads : Nat) :
    Regular (.start (.new settings now) .idle threads) :=
  ⟨accounted_start settings now threads, rfl, fun _ => sound_start settings now threads⟩

theorem Regular.take {s : Threads Shared Point} (h : Regular s) (turn : Turn) :
    Regular (turn.take s) := by
  have htaken := taken_take turn s
  refine ⟨h.accounted.taken htaken, h.order.taken htaken, fun hfew => ?_⟩
  have hgrown := (Later.of_taken htaken).accepted.length_le
  have hfewBefore := Nat.lt_of_le_of_lt hgrown hfew
  exact (h.sound hfewBefore).taken hfewBefore h.accounted.order_eq h.order htaken

theorem Regular.run {s : Threads Shared Point} (h : Regular s) (turns : List Turn) :
    Regular (runTurns turns s) :=
  runTurns_induction (fun _ turn hregular => hregular.take turn) turns h

theorem sound_run (settings : Settings) (now threads : Nat) (turns : List Turn)
    (hfew : (reached settings now threads turns).shared.accepted.length < UInt64.size) :
    Sound (reached settings now threads turns) :=
  ((regular_start settings now threads).run turns).sound hfew

theorem later_run (turns : List Turn) (s : Threads Shared Point) :
    Later s.shared (runTurns turns s).shared := by
  induction turns generalizing s with
  | nil => exact .refl s.shared
  | cons turn rest ih => exact (Later.of_taken (taken_take turn s)).trans (ih (turn.take s))

def Point.promised? : Point → Option (List Nat)
  | .flushing promised => some promised
  | .locked promised => some promised
  | .making _ promised => some promised
  | .made _ promised => some promised
  | .waiting _ promised => some promised
  | _ => none

theorem Effect.promised?_eq {move : Move} {point point' : Point} {s s' : Shared}
    (h : Effect s move point point' s') {promised : List Nat}
    (hpromised : point.promised? = some promised) :
    point' = .idle ∨ point'.promised? = some promised := by
  cases h with
  | lock other free => exact .inr hpromised
  | share other latest known current => exact .inr hpromised
  | mark other outdated => exact .inr hpromised
  | makeBarrier accepted other => exact .inr hpromised
  | remember latest other => exact .inr hpromised
  | pass id other released => exact .inl rfl
  | giveUp id other => exact .inl rfl
  | _ => cases hpromised

theorem shipped_of_lt {s : Threads Shared Point} (h : Accounted s) {place : Nat}
    (hplace : place < s.shared.account.shipped.length) :
    ∃ message, s.shared.order[place]? = some message ∧
      s.shared.shipped[place]? = some message := by
  have hshipped : s.shared.shipped[place]? = some s.shared.account.shipped[place] :=
    List.getElem?_eq_getElem hplace
  refine ⟨s.shared.account.shipped[place], ?_, hshipped⟩
  rw [h.order_eq]
  exact (List.getElem?_append_left hplace).trans hshipped

end Uplink

end LogShipping
