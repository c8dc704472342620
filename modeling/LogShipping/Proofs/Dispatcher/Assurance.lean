import LogShipping.Proofs.Dispatcher.Barrier

/-!
What a flush can rely on at each point. Its barrier is pending until all drafts handed in before
have been offered; and the tickets that targets give it afterwards cover the records that they had
taken by then.
-/

namespace LogShipping.Dispatcher

variable {H ω : Type} [Target H]

/-- What targets promise. `I` holds of a target whatever happens to it, and `G` tells that a ticket
covers the first so many of the records that the target took. -/
structure Pledge (own : ω → H → H) (I : Watched H → Prop) (G : H → Nat → Nat → Prop) : Prop where
  keeps : ∀ {w w' : Watched H}, Evolved own w w' → I w → I w'
  stays : ∀ {w w' : Watched H} {ticket count : Nat}, Evolved own w w' → I w →
    G w.target ticket count → G w'.target ticket count
  begins : ∀ {w : Watched H} {now ticket : Nat}, I w →
    (Target.askFlush now w.target).2 = some ticket →
      G (Target.askFlush now w.target).1 ticket (taken w.offers).length

def Covers (G : H → Nat → Nat → Prop) (c : Chronicle H) (promised place ticket : Nat)
    (w : Watched H) : Prop :=
  ∃ offers, offers <+: w.offers ∧
    (c.dispatched.take promised).flatMap (copies place) <+: offers.map Prod.fst ∧
    G w.target ticket (taken offers).length

def Assured (G : H → Nat → Nat → Prop) (c : Chronicle H) : Point → Prop
  | .idle => True
  | .draining ticket promised => c.Awaits ticket promised ∨ c.Delivered promised
  | .flushing _ asked promised => c.Delivered promised ∧
      ∀ place ticket w, (place, some ticket) ∈ asked →
        c.dispatcher.targets[place]? = some w → Covers G c promised place ticket w

structure Chronicle.Sound (origin : Origin) (I : Watched H → Prop) (G : H → Nat → Nat → Prop)
    (c : Chronicle H) : Prop where
  kept : c.Kept origin
  order : c.InOrder
  targets : ∀ (i : Nat) (w : Watched H), c.dispatcher.targets[i]? = some w → I w
  points : ∀ point ∈ c.threads.points, Assured G c point

variable {own : ω → H → H} {I : Watched H → Prop} {G : H → Nat → Nat → Prop} {origin : Origin}
  {c c' : Chronicle H}

private theorem Covers.evolved (hpledge : Pledge own I G) {promised place ticket : Nat}
    {w w' : Watched H} (h : Covers G c promised place ticket w) (hevolved : Evolved own w w')
    (hw : I w) (hsame : c'.dispatched.take promised = c.dispatched.take promised) :
    Covers G c' promised place ticket w' := by
  obtain ⟨offers, hoffers, hcopies, hticket⟩ := h
  exact ⟨offers, hoffers.trans hevolved.offers_grow, hsame ▸ hcopies,
    hpledge.stays hevolved hw hticket⟩

private theorem Assured.advanced (hpledge : Pledge own I G) {point : Point} (h : Assured G c point)
    (htargets : ∀ (i : Nat) (w : Watched H), c.dispatcher.targets[i]? = some w → I w)
    (hkept : c'.Kept origin) (hadvanced : c.Advanced own c') : Assured G c' point := by
  cases point with
  | idle => trivial
  | draining ticket promised =>
      rcases h with hawaits | hdelivered
      · exact hawaits.advanced hkept hadvanced
      · exact .inr (hdelivered.advanced hadvanced)
  | flushing rest asked promised =>
      obtain ⟨hdelivered, hasked⟩ := h
      refine ⟨hdelivered.advanced hadvanced, fun place ticket w' hmem hw' => ?_⟩
      obtain ⟨w, hw, hevolved⟩ := Chronicle.evolves_advanced hadvanced place w' hw'
      exact (hasked place ticket w hmem hw).evolved hpledge hevolved (htargets place w hw)
        (hdelivered.take_eq hadvanced)

omit [Target H] in
private theorem Chronicle.InOrder.not_awaits (h : c.InOrder) {ticket promised : Nat}
    (hreached : c.dispatcher.isReached ticket = true) : ¬ c.Awaits ticket promised := by
  rintro ⟨ahead, behind, hsplit, -⟩
  have hnodup : (c.dispatcher.scene.reached ++
      c.dispatcher.worker.pending.filterMap Job.ticket?).Nodup := by
    rw [h]
    exact List.nodup_range
  have hmem : ticket ∈ c.dispatcher.scene.reached := by
    simpa [isReached] using hreached
  have hpending : ticket ∈ c.dispatcher.worker.pending.filterMap Job.ticket? := by
    simp [hsplit, Job.ticket?]
  exact (List.nodup_append.mp hnodup).2.2 ticket hmem ticket hpending rfl

/-- The target that is asked next has been offered all that the flush has to see through. -/
theorem covers_asked (hpledge : Pledge own I G) {promised now place ticket : Nat}
    (hdelivered : c.Delivered promised)
    (htargets : ∀ (i : Nat) (w : Watched H), c.dispatcher.targets[i]? = some w → I w)
    (hticket : (c.dispatcher.askTarget now place).2 = some ticket)
    (hdispatcher : c'.dispatcher = (c.dispatcher.askTarget now place).1)
    (hdispatched : c'.dispatched = c.dispatched) {w' : Watched H}
    (hw' : c'.dispatcher.targets[place]? = some w') : Covers G c' promised place ticket w' := by
  unfold askTarget at hticket hdispatcher
  cases hw : c.dispatcher.targets[place]? with
  | none => simp [hw] at hticket
  | some w =>
      simp only [hw] at hticket hdispatcher
      have hasked : w' = (Target.askFlush now w).1 := by
        rw [hdispatcher] at hw'
        have hmodified : (c.dispatcher.targets.modify place fun _ =>
            (Target.askFlush now w).1)[place]? = some w' := hw'
        simpa [hw] using hmodified.symm
      subst hasked
      refine ⟨w.offers, List.prefix_rfl, ?_, hpledge.begins (htargets place w hw) hticket⟩
      rw [hdispatched]
      exact hdelivered.offered place w hw

private theorem Chronicle.Sound.moved (hpledge : Pledge own I G) (h : c.Sound origin I G)
    {point point' : Point} {move : Move} (hmem : point ∈ c.threads.points)
    (hmoved : CallStep c.threads.shared move point point' c'.threads.shared)
    (hdispatched : c'.dispatched = c.dispatched) (hrow : c'.InOrder)
    (hassured : Assured G c' point) : Assured G c' point' := by
  have hpoint := h.points point hmem
  generalize hshared : c'.threads.shared = shared' at hmoved
  have hdispatcher : c'.dispatcher = shared'.dispatcher := congrArg Shared.dispatcher hshared
  cases hmoved with
  | flush now tick timeout point' waits =>
      rcases waits with ⟨-, rfl⟩ | ⟨hticket, rfl⟩
      · trivial
      · rcases called_askFlush now tick timeout c.dispatcher with ⟨hnone, -⟩ | ⟨-, hcalled⟩
        · cases hnone.symm.trans hticket
        · have hcalled' : Called (some (.barrier c.dispatcher.tickets)) c.dispatcher
              c'.dispatcher := hdispatcher ▸ hcalled
          refine .inl ?_
          rw [h.kept.taken]
          exact awaits_of_handedIn h.kept hcalled' hdispatched
  | drain ticket promised reached =>
      refine ⟨?_, fun place ticket w hasked => by cases hasked⟩
      refine hassured.resolve_left (hrow.not_awaits ?_)
      rw [hdispatcher]
      exact reached
  | ask index now place rest asked promised next =>
      obtain ⟨hdelivered, hasked⟩ := hassured
      refine ⟨hdelivered, fun place' ticket w hmem' hw => ?_⟩
      rcases List.mem_append.mp hmem' with hold | hnew
      · exact hasked place' ticket w hold hw
      · obtain ⟨rfl, hticket⟩ := Prod.mk.inj (List.mem_singleton.mp hnew)
        exact covers_asked hpledge hpoint.1 h.targets hticket.symm hdispatcher hdispatched hw
  | _ => trivial

theorem Chronicle.Sound.step (hpledge : Pledge own I G) (h : c.Sound origin I G) (turn : Turn ω) :
    (c.step own turn).Sound origin I G := by
  have hadvanced := advanced_step h.kept.serving own turn
  have hkept := h.kept.step own turn
  have hassured := fun point hmem =>
    (h.points point hmem).advanced hpledge h.targets hkept hadvanced
  have hrow := h.order.advanced hadvanced
  refine ⟨hkept, hrow, ?_, ?_⟩
  · intro i w' hw'
    obtain ⟨w, hw, hevolved⟩ := evolves_advanced hadvanced i w' hw'
    exact hpledge.keeps hevolved (h.targets i w hw)
  · generalize c.step own turn = c' at hadvanced hrow hassured
    cases hadvanced with
    | rest same =>
        rw [same] at hassured ⊢
        exact hassured
    | call i move point point' job standing moved called points taken admitted dispatched =>
        intro other hmem
        rw [points] at hmem
        rcases List.mem_or_eq_of_mem_set hmem with hold | rfl
        · exact hassured other hold
        · have hstanding := List.mem_of_getElem? standing
          exact h.moved hpledge hstanding moved dispatched hrow (hassured point hstanding)
    | work stepped threads tickets admitted dispatched =>
        rw [threads]
        exact hassured
    | alone i deed same =>
        rw [same] at hassured ⊢
        exact hassured

omit [Target H] in
theorem Chronicle.sound_start {targets : List H} (htargets : ∀ target ∈ targets, I (.of target))
    (capacity now callers : Nat) :
    (start origin targets capacity now callers).Sound origin I G where
  kept := kept_start origin targets capacity now callers
  order := rfl
  targets := by
    intro i w hw
    have hw' : (targets.map Watched.of)[i]? = some w := hw
    rw [List.getElem?_map] at hw'
    obtain ⟨target, hmem, rfl⟩ := Option.map_eq_some_iff.mp hw'
    exact htargets target (List.mem_of_getElem? hmem)
  points := by
    intro point hmem
    rw [List.eq_of_mem_replicate hmem]
    trivial

theorem Chronicle.Sound.run (hpledge : Pledge own I G) (h : c.Sound origin I G)
    (turns : List (Turn ω)) : (c.run own turns).Sound origin I G :=
  run_induction (fun _ turn hsound => hsound.step hpledge turn) turns h

end LogShipping.Dispatcher
