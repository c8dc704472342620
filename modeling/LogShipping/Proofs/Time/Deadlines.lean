import LogShipping.Dispatcher.Outlet
import LogShipping.Proofs.Uplink.Transitions

/-!
Waits that end past the last reading of the clock. A flush of a dispatcher or of a sink reckons the
end of its wait before it begins, and so does a shipper that backs off. Where the clock has no such
reading, the flush has no outcome and the shipper comes to a halt for good. A flush of an uplink
waits without a deadline of its own.
-/

namespace LogShipping

namespace Tick

/-- A wait that begins now ends before `2 ^ 63` seconds, so that the clock has a reading for its
end. -/
def Allows (t : Tick) (span : Span) : Prop :=
  t.seconds * 1000000000 + t.nanos + span.seconds * 1000000000 + span.nanos <
    9223372036854775808 * 1000000000

private theorem isSome_add? (t : Tick) (span : Span) : (t.add? span).isSome ↔ t.Allows span := by
  have hlast : (t.add? span).isSome ↔
      t.seconds + span.seconds + ((t.nanos + span.nanos) / 1000000000 : Nat) ≤ lastSecond := by
    dsimp only [add?]
    split <;> simp_all
  rw [hlast]
  unfold Allows lastSecond
  omega

private theorem add?_eq_none {t : Tick} {span : Span} : t.add? span = none ↔ ¬t.Allows span := by
  rw [← isSome_add?, Option.not_isSome_iff_eq_none]

end Tick

private theorem LineSink.isSome_askFlush {μ : Type} (now : Nat) (tick : Tick) (timeout : Span)
    (s : LineSink μ) : (s.askFlush now tick timeout).2.isSome ↔ tick.Allows timeout := by
  rw [← Tick.isSome_add?]
  unfold askFlush
  cases tick.add? timeout <;> simp

private theorem LineSink.isSome_flush {μ : Type} [Device μ] (now : Nat) (tick : Tick)
    (timeout : Span) (s : LineSink μ) :
    (s.flush now tick timeout).2.isSome ↔ tick.Allows timeout := by
  rw [← s.isSome_askFlush now]
  unfold flush
  rcases s.askFlush now tick timeout with ⟨s', _ | ticket⟩ <;> simp

private theorem Dispatcher.isSome_askFlush {H : Type} (now : Nat) (tick : Tick) (timeout : Span)
    (d : Dispatcher H) : (d.askFlush now tick timeout).2.isSome ↔ tick.Allows timeout := by
  rw [← Tick.isSome_add?]
  unfold askFlush
  cases tick.add? timeout <;> simp

private theorem Dispatcher.isSome_flush {H : Type} [Target H] (now : Nat) (tick : Tick)
    (timeout : Span) (d : Dispatcher H) :
    (d.flush now tick timeout).2.isSome ↔ tick.Allows timeout := by
  rw [← d.isSome_askFlush now]
  unfold flush
  rcases d.askFlush now tick timeout with ⟨d', _ | ticket⟩
  · simp
  · dsimp only
    split <;> simp

namespace Uplink

/-- The pass ends in a wait for which the clock has no end. -/
def Shipper.Overreaches (s : Shipper) (o : Outside) : Prop :=
  s.halted = none ∧ o.shutdown = false ∧
    ∃ delay, Transition s o (.backOff delay) ∧ ¬o.tick.Allows (s.settings.retry delay)

private theorem Shipper.halted_of_reaches {s s' : Shipper} {o : Outside} {next : Next}
    (h : s.Reaches o next s') :
    s'.halted = some .deadlineOutOfRange ↔
      ∃ delay, next = .backOff delay ∧ ¬o.tick.Allows (s.settings.retry delay) := by
  cases next with
  | enter phase =>
      obtain ⟨-, hrunning⟩ := h
      simp [hrunning]
  | backOff delay =>
      unfold Reaches at h
      dsimp only at h
      split at h
      · rename_i deadline hadd
        have hallows : o.tick.Allows (s.settings.retry delay) := by
          rw [← Tick.isSome_add?, hadd]
          rfl
        simp [h.2, hallows]
      · rename_i hadd
        exact ⟨fun _ => ⟨delay, rfl, Tick.add?_eq_none.mp hadd⟩, fun _ => h.2⟩

theorem Shipper.halted_step {s : Shipper} (hplan : s.HasCandidate) (o : Outside) :
    (s.step o).halted = some .deadlineOutOfRange ↔
      s.halted = some .deadlineOutOfRange ∨ s.Overreaches o := by
  by_cases hrunning : s.halted = none
  · cases hshutdown : o.shutdown with
    | true =>
        rw [step_of_shutdown hrunning hshutdown]
        simp [hrunning, Overreaches, hshutdown]
    | false =>
        obtain ⟨next, hnext, hreaches⟩ := transition_step hrunning hplan hshutdown
        rw [halted_of_reaches hreaches]
        constructor
        · rintro ⟨delay, rfl, hend⟩
          exact .inr ⟨hrunning, hshutdown, delay, hnext, hend⟩
        · rintro (hhalted | ⟨-, -, delay, hdelay, hend⟩)
          · simp [hrunning] at hhalted
          · exact ⟨delay, hdelay.unique hnext, hend⟩
  · rw [step_of_halted hrunning]
    simp [Overreaches, hrunning]

private theorem halted_shipperAfter (settings : Settings) (now threads : Nat) (turns : List Turn) :
    (shipperAfter settings now threads turns).halted = some .deadlineOutOfRange ↔
      SomePass (fun first o => (shipperAfter settings now threads first).Overreaches o) turns := by
  induction turns using List.reverseRecOn with
  | nil =>
      have hnew : (shipperAfter settings now threads []).halted = none := rfl
      simp [hnew, not_somePass_nil]
  | append_singleton turns turn ih =>
      rw [somePass_concat, ← ih]
      rcases shipperAfter_concat settings now threads turns turn with
        ⟨o, rfl, hstep⟩ | ⟨hcaller, hsame⟩
      · have hplan : (shipperAfter settings now threads turns).HasCandidate :=
          hasCandidate_run settings now threads turns
        rw [hstep, Shipper.halted_step hplan]
        simp
      · have hhalted : (shipperAfter settings now threads (turns ++ [turn])).halted =
            (shipperAfter settings now threads turns).halted := congrArg Helm.halted hsame
        simp [hhalted, hcaller]

end Uplink

/-- A flush has an outcome just when the clock has a reading for the end of its wait, in whatever
state it begins. A shipper is halted by a delay just when one of its passes overreaches. -/
theorem deadlines_exact (tick : Tick) (timeout : Span) (settings : Uplink.Settings)
    (now threads : Nat) (turns : List Uplink.Turn) :
    (∀ (H : Type) [Target H] (d : Dispatcher H),
      (d.flush now tick timeout).2.isSome ↔ tick.Allows timeout) ∧
    (∀ (μ : Type) [Device μ] (s : LineSink μ),
      ((s.flush now tick timeout).2.isSome ↔ tick.Allows timeout) ∧
      ((s.close now tick timeout).2.isSome ↔ tick.Allows timeout)) ∧
    (∀ s : FileSink,
      ((s.flush now tick timeout).2.isSome ↔ tick.Allows timeout) ∧
      ((s.close now tick timeout).2.isSome ↔ tick.Allows timeout)) ∧
    ((Uplink.shipperAfter settings now threads turns).halted = some .deadlineOutOfRange ↔
      Uplink.SomePass
        (fun first o => (Uplink.shipperAfter settings now threads first).Overreaches o) turns) :=
  ⟨fun _ _ d => d.isSome_flush now tick timeout,
    fun _ _ s => ⟨s.isSome_flush now tick timeout, s.shut.isSome_flush now tick timeout⟩,
    fun s => ⟨s.lines.isSome_flush now tick timeout, s.lines.shut.isSome_flush now tick timeout⟩,
    Uplink.halted_shipperAfter settings now threads turns⟩

/-- With the longest span no flush has an outcome and both delays halt the shipper, at a clock that
has only just started. -/
theorem longest_span_out_of_range :
    let longest : Span := ⟨18446744073709551615, 999999999⟩
    let origin : Origin := { host := "box", processId := 42, processName := "svc" }
    let device : Device.Buffered := { content := [] }
    let sink := LineSink.new device Layout.console 1 0
    let settings : Uplink.Settings :=
      { Uplink.Settings.standard with longRetry := longest, shortRetry := longest }
    let after := Uplink.shipperAfter settings 0 0
    let endpoint : Network.Endpoint := ⟨.v4 #v[127, 0, 0, 1], 12201⟩
    ((Dispatcher.new origin 1 0 : Dispatcher Outlet).flush 0 .start longest).2 = none ∧
      (sink.flush 0 .start longest).2 = none ∧ (sink.close 0 .start longest).2 = none ∧
      ((⟨sink⟩ : FileSink).flush 0 .start longest).2 = none ∧
      (after [.network { tick := .start, found := some (.ok []) }]).halted =
        some .deadlineOutOfRange ∧
      (after [.network { tick := .start, found := some (.ok [endpoint]) },
        .network { tick := .start, reachable := fun _ => true },
        .network { tick := .start, read := .closed }]).halted = some .deadlineOutOfRange := by
  decide +kernel

end LogShipping
