import LogShipping.Proofs.Dispatcher.Dispatch

namespace LogShipping.Dispatcher

variable {H ω : Type} [Target H]

inductive Evolved (own : ω → H → H) (w : Watched H) : Watched H → Prop
  | same : Evolved own w w
  | offered (now : Nat) (r : Record) {w' : Watched H} (reply : Offered now r w w') :
      Evolved own w w'
  | asked (now : Nat) : Evolved own w (Target.askFlush now w).1
  | alone (deed : ω) : Evolved own w (Watched.own own deed w)

theorem Evolved.offers_grow {own : ω → H → H} {w w' : Watched H} (h : Evolved own w w') :
    w.offers <+: w'.offers := by
  cases h with
  | same => exact List.prefix_rfl
  | offered now r reply =>
      cases reply with
      | answered target result reply => exact List.prefix_append _ _
      | begun target reply => exact List.prefix_rfl
  | asked now => exact List.prefix_rfl
  | alone deed => exact List.prefix_rfl

def Evolves (own : ω → H → H) (targets targets' : List (Watched H)) : Prop :=
  ∀ (i : Nat) (w' : Watched H), targets'[i]? = some w' →
    ∃ w, targets[i]? = some w ∧ Evolved own w w'

variable {own : ω → H → H}

theorem evolves_same (targets : List (Watched H)) : Evolves own targets targets :=
  fun _ w' hw' => ⟨w', hw', .same⟩

private theorem evolves_set {targets : List (Watched H)} {i : Nat} {w w' : Watched H}
    (hw : targets[i]? = some w) (h : Evolved own w w') :
    Evolves own targets (targets.set i w') := by
  intro j v hv
  by_cases hij : i = j
  · subst hij
    rw [List.getElem?_set_self (List.getElem?_eq_some_iff.mp hw).1] at hv
    obtain rfl := Option.some.inj hv
    exact ⟨w, hw, h⟩
  · rw [List.getElem?_set_ne hij] at hv
    exact ⟨v, hv, .same⟩

theorem evolves_modify {targets : List (Watched H)} {i : Nat} {f : Watched H → Watched H}
    (h : ∀ w, targets[i]? = some w → Evolved own w (f w)) :
    Evolves own targets (targets.modify i f) := by
  intro j v hv
  rw [List.getElem?_modify] at hv
  obtain ⟨w, hw, rfl⟩ := Option.map_eq_some_iff.mp hv
  by_cases hij : i = j
  · subst hij
    exact ⟨w, hw, by simpa using h w hw⟩
  · exact ⟨w, hw, by simpa [hij] using Evolved.same⟩

theorem evolves_stepped {w w' : Worker Job} {scene scene' : Scene (Watched H)}
    (h : Worker.Stepped act w scene w' scene') : Evolves own scene.targets scene'.targets := by
  rcases targets_stepped h with hsame | ⟨i, record, watched, after, found, reply, hset⟩
  · rw [hsame]
    exact evolves_same _
  · rw [hset]
    exact evolves_set found (.offered scene.now record reply)

private theorem evolves_askTarget (now : Nat) (d : Dispatcher (Watched H)) (place : Nat) :
    Evolves own d.targets (d.askTarget now place).1.targets := by
  unfold askTarget
  cases hplace : d.targets[place]? with
  | none => exact evolves_same _
  | some w =>
      refine evolves_modify fun w' hw' => ?_
      obtain rfl : w = w' := Option.some.inj (hplace.symm.trans hw')
      exact .asked now

theorem evolves_callStep {move : Move} {point point' : Point} {s s' : Shared (Watched H)}
    (h : CallStep s move point point' s') :
    Evolves own s.dispatcher.targets s'.dispatcher.targets := by
  cases h with
  | log now draft =>
      have htargets : (s.log now draft).dispatcher.targets = s.dispatcher.targets :=
        congrArg Scene.targets (scene_log now draft s)
      rw [htargets]
      exact evolves_same _
  | flush now tick timeout point waits =>
      have htargets :
          (s.dispatcher.askFlush now tick timeout).1.targets = s.dispatcher.targets :=
        congrArg Scene.targets (scene_askFlush now tick timeout s.dispatcher)
      show Evolves own s.dispatcher.targets (s.dispatcher.askFlush now tick timeout).1.targets
      rw [htargets]
      exact evolves_same _
  | ask index now place rest asked promised next => exact evolves_askTarget now s.dispatcher place
  | _ => exact evolves_same _

end LogShipping.Dispatcher
