import LogShipping.Proofs.Uplink.Turns

/-!
What the shipper alone changes. Callers and the flush worker put entries into its queue and reports
into its journal. The stage it is in, its buffer and its connections are its own, so they change in
its own passes and at no other time.
-/

namespace LogShipping

namespace Uplink

open Network

/-- The endpoint of a dial, and whether it answered. -/
def Event.dial? : Event → Option (Endpoint × Bool)
  | dialled endpoint => some (endpoint, true)
  | dialFailed endpoint _ => some (endpoint, false)
  | _ => none

structure Helm where
  settings : Settings
  published : Stage
  phase : Phase
  halted : Option Halt
  buffer : FrameBuffer
  released : List Nat
  past : List Link
  dials : List (Endpoint × Bool)

namespace Shipper

def dials (s : Shipper) : List (Endpoint × Bool) :=
  s.journal.filterMap Event.dial?

def helm (s : Shipper) : Helm :=
  ⟨s.settings, s.published, s.phase, s.halted, s.buffer, s.released, s.past, s.dials⟩

theorem dials_note (event : Event) (s : Shipper) :
    (s.note event).dials = s.dials ++ event.dial?.toList := by
  cases h : event.dial? <;> simp [dials, note, h]

theorem helm_note {event : Event} (h : event.dial? = none) (s : Shipper) :
    (s.note event).helm = s.helm := by
  have hdials := dials_note event s
  rw [h, Option.toList_none, List.append_nil] at hdials
  rw [helm, hdials]
  rfl

theorem live?_of_helm {s s' : Shipper} (h : s'.helm = s.helm) : s'.live? = s.live? := by
  have hphase : s'.phase = s.phase := congrArg Helm.phase h
  have hhalted : s'.halted = s.halted := congrArg Helm.halted h
  rw [live?, live?, hphase, hhalted]

theorem links_of_helm {s s' : Shipper} (h : s'.helm = s.helm) : s'.links = s.links := by
  have hpast : s'.past = s.past := congrArg Helm.past h
  rw [links, links, live?_of_helm h, hpast]

@[simp] theorem settings_note (event : Event) (s : Shipper) :
    (s.note event).settings = s.settings := rfl

@[simp] theorem settings_publish (s : Shipper) : s.publish.settings = s.settings := by
  unfold publish
  split <;> rfl

@[simp] theorem settings_retryAfter (delay : Span) (o : Outside) (s : Shipper) :
    (s.retryAfter delay o).settings = s.settings := by
  unfold retryAfter
  split <;> rfl

@[simp] theorem settings_lose (cause : IoError) (link : Link) (o : Outside) (s : Shipper) :
    (s.lose cause link o).settings = s.settings := by
  simp [lose]

theorem load_eq (link : Link) (s : Shipper) :
    ∃ backlog buffer released, (s.load link).1 = { s with backlog, buffer, released } := by
  unfold load
  split
  · exact ⟨s.backlog, s.buffer, s.released, rfl⟩
  · split
    · exact ⟨s.backlog, s.buffer, s.released, rfl⟩
    · exact ⟨_, s.buffer, _, rfl⟩
    · exact ⟨_, _, s.released, rfl⟩

@[simp] theorem settings_load (link : Link) (s : Shipper) :
    (s.load link).1.settings = s.settings := by
  obtain ⟨backlog, buffer, released, hload⟩ := load_eq link s
  rw [hload]

@[simp] theorem settings_unload (link : Link) (o : Outside) (s : Shipper) :
    (s.unload link o).settings = s.settings := by
  unfold unload
  split <;> simp

@[simp] theorem settings_step (o : Outside) (s : Shipper) : (s.step o).settings = s.settings := by
  unfold step
  split
  · rfl
  · dsimp only
    split
    · simp
    · split
      · unfold lookUp
        split <;> simp
      · unfold wait
        split <;> simp
      · unfold dial
        split
        · simp
        · split
          · simp
          · dsimp only
            split <;> simp
      · unfold ship
        split
        · simp
        · split <;> simp
        · simp

end Shipper

private theorem helm_withBacklog (backlog : Backlog Parcel) (u : Uplink) :
    (u.withBacklog backlog).shipper.helm = u.shipper.helm := rfl

private theorem helm_countRefusal (now : Nat) (u : Uplink) :
    (u.countRefusal now).shipper.helm = u.shipper.helm := by
  unfold countRefusal
  rcases u.throttle.drop now with ⟨throttle, report⟩
  cases report with
  | none => rfl
  | some count => exact Shipper.helm_note rfl u.shipper

private theorem helm_reportRefusals (now : Nat) (u : Uplink) :
    (u.reportRefusals now).shipper.helm = u.shipper.helm := by
  unfold reportRefusals
  rcases u.throttle.flush now with ⟨throttle, report⟩
  cases report with
  | none => rfl
  | some count => exact Shipper.helm_note rfl u.shipper

private theorem helm_send {now : Nat} {message : String} {s s' : Shared} {point' : Point}
    (h : act (.send now message) .idle s = some (point', s')) :
    s'.uplink.shipper.helm = s.uplink.shipper.helm := by
  by_cases hempty : message.isEmpty
  · simp only [act, hempty, if_true, Option.some.injEq, Prod.mk.injEq] at h
    rw [← h.2]
  · by_cases room : s.uplink.backlog.size < s.uplink.settings.maxWaiting
    · simp only [act, hempty, Bool.false_eq_true, if_false, admit?, Backlog.admit?, room, if_true,
        Option.map_some, Option.some.injEq, Prod.mk.injEq] at h
      rw [← h.2, helm_withBacklog]
    · simp only [act, hempty, Bool.false_eq_true, if_false, admit?, Backlog.admit?, room,
        Option.map_none, Option.some.injEq, Prod.mk.injEq] at h
      rw [← h.2, helm_countRefusal]

private theorem helm_act {move : Move} {point point' : Point} {s s' : Shared}
    (h : act move point s = some (point', s')) :
    s'.uplink.shipper.helm = s.uplink.shipper.helm := by
  cases effect_of_act h with
  | sendEmpty now message => rfl
  | grant now message hmessage room => rfl
  | refuse now message throttle shipper full same => exact helm_send h
  | startFlush now throttle shipper same =>
      simp only [act, Option.some.injEq, Prod.mk.injEq, true_and] at h
      rw [← h, helm_reportRefusals]
  | _ => rfl

private theorem helm_relayed {u u' : Uplink} (h : Relayed u u') :
    u'.shipper.helm = u.shipper.helm := by
  cases h <;> rfl

theorem helm_take (turn : Turn) (s : Threads Shared Point) :
    (∃ o, turn = .network o ∧
      (turn.take s).shared.uplink.shipper = s.shared.uplink.shipper.step o) ∨
    (∀ o, turn ≠ .network o) ∧
      (turn.take s).shared.uplink.shipper.helm = s.shared.uplink.shipper.helm := by
  cases turn with
  | network o => exact .inl ⟨o, rfl, rfl⟩
  | caller i move =>
      refine .inr ⟨by simp, ?_⟩
      change (s.step act i move).shared.uplink.shipper.helm = _
      rcases Threads.step_cases act i move s with hrest | hmove
      · rw [hrest]
      · obtain ⟨point, point', shared', -, hact, hstep⟩ := hmove
        rw [hstep]
        exact helm_act hact
  | relay =>
      refine .inr ⟨by simp, ?_⟩
      unfold Turn.take
      cases hrelay : s.shared.uplink.relayStep? with
      | none => rfl
      | some uplink => exact helm_relayed (relayed_of_relayStep? hrelay)

/-- Some pass of these turns was so, after the turns before it. -/
def SomePass (P : List Turn → Outside → Prop) (turns : List Turn) : Prop :=
  ∃ first o rest, turns = first ++ .network o :: rest ∧ P first o

theorem somePass_concat {P : List Turn → Outside → Prop} {turns : List Turn} {turn : Turn} :
    SomePass P (turns ++ [turn]) ↔ SomePass P turns ∨ ∃ o, turn = .network o ∧ P turns o := by
  constructor
  · rintro ⟨first, o, rest, hsplit, hpass⟩
    rcases List.eq_nil_or_concat rest with rfl | ⟨middle, last, rfl⟩
    · obtain ⟨rfl, hturn⟩ := List.append_inj' hsplit rfl
      exact .inr ⟨o, List.singleton_inj.mp hturn, hpass⟩
    · rw [List.concat_eq_append, ← List.cons_append, ← List.append_assoc] at hsplit
      exact .inl ⟨first, o, middle, (List.append_inj' hsplit rfl).1, hpass⟩
  · rintro (⟨first, o, rest, rfl, hpass⟩ | ⟨o, rfl, hpass⟩)
    · exact ⟨first, o, rest ++ [turn], by simp, hpass⟩
    · exact ⟨turns, o, [], rfl, hpass⟩

theorem not_somePass_nil {P : List Turn → Outside → Prop} : ¬SomePass P [] := by
  rintro ⟨first, o, rest, hsplit, -⟩
  exact List.append_ne_nil_of_right_ne_nil first (List.cons_ne_nil _ rest) hsplit.symm

theorem SomePass.append {P : List Turn → Outside → Prop} {turns : List Turn}
    (h : SomePass P turns) (later : List Turn) : SomePass P (turns ++ later) := by
  obtain ⟨first, o, rest, rfl, hpass⟩ := h
  exact ⟨first, o, rest ++ later, by simp, hpass⟩

def shipperAfter (settings : Settings) (now threads : Nat) (turns : List Turn) : Shipper :=
  (reached settings now threads turns).shared.uplink.shipper

section

variable (settings : Settings) (now threads : Nat)

theorem reached_concat (turns : List Turn) (turn : Turn) :
    reached settings now threads (turns ++ [turn]) =
      turn.take (reached settings now threads turns) := by
  rw [reached_append]
  rfl

theorem shipperAfter_network (turns : List Turn) (o : Outside) :
    shipperAfter settings now threads (turns ++ [.network o]) =
      (shipperAfter settings now threads turns).step o := by
  rw [shipperAfter, reached_concat]
  rfl

theorem shipperAfter_concat (turns : List Turn) (turn : Turn) :
    (∃ o, turn = .network o ∧ shipperAfter settings now threads (turns ++ [turn]) =
      (shipperAfter settings now threads turns).step o) ∨
    (∀ o, turn ≠ .network o) ∧ (shipperAfter settings now threads (turns ++ [turn])).helm =
      (shipperAfter settings now threads turns).helm := by
  have hcases := helm_take turn (reached settings now threads turns)
  rw [← reached_concat] at hcases
  exact hcases

/-- What holds of a new shipper, and is kept by its passes and by whatever leaves its own alone,
holds after all turns. -/
theorem shipper_induction {P : Shipper → Prop} (hnew : P (.new settings))
    (pass : ∀ s o, P s → P (s.step o)) (others : ∀ s s', s'.helm = s.helm → P s → P s')
    (turns : List Turn) : P (shipperAfter settings now threads turns) := by
  refine runTurns_induction (P := fun s => P s.shared.uplink.shipper) ?_ turns hnew
  intro s turn h
  rcases helm_take turn s with ⟨o, -, hstep⟩ | ⟨-, hsame⟩
  · rw [hstep]
    exact pass _ o h
  · exact others _ _ hsame h

theorem settings_shipperAfter (turns : List Turn) :
    (shipperAfter settings now threads turns).settings = settings := by
  refine shipper_induction settings now threads (P := fun s => s.settings = settings) rfl ?_ ?_
    turns
  · intro s o h
    rw [Shipper.settings_step, h]
  · intro s s' hsame h
    exact (congrArg Helm.settings hsame).trans h

end

end Uplink

end LogShipping
