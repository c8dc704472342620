import LogShipping.Proofs.Dispatcher.Targets

namespace LogShipping

def Offer.target? {H : Type} : Offer H → Option H
  | answered target _ => some target
  | begun target => some target
  | notReady => none

namespace Dispatcher

variable {α H ω : Type}

/-- What was added, without the consoles that another one was added after. -/
inductive LastConsole (console : α → Bool) : List α → List α → Prop
  | none {added : List α} (plain : ∀ a ∈ added, console a = false) :
      LastConsole console added added
  | last (before : List α) {c : α} {after : List α} (isConsole : console c = true)
      (plain : ∀ a ∈ after, console a = false) :
      LastConsole console (before ++ c :: after) (before.filter (!console ·) ++ c :: after)

namespace LastConsole

variable {console : α → Bool} {added kept : List α}

private theorem filter_plain {after : List α} (plain : ∀ a ∈ after, console a = false) :
    after.filter (!console ·) = after ∧ after.filter console = [] := by
  refine ⟨List.filter_eq_self.mpr fun a ha => ?_, List.filter_eq_nil_iff.mpr fun a ha => ?_⟩
  · simp [plain a ha]
  · simp [plain a ha]

theorem others (h : LastConsole console added kept) :
    kept.filter (!console ·) = added.filter (!console ·) := by
  cases h with
  | none plain => rfl
  | last before isConsole plain => simp [List.filter_filter]

theorem consoles (h : LastConsole console added kept) :
    kept.filter console = (added.filter console).getLast?.toList := by
  cases h with
  | none plain => simp [(filter_plain plain).2]
  | last before isConsole plain =>
      simp [List.filter_filter, isConsole, (filter_plain plain).2]

theorem sublist (h : LastConsole console added kept) : kept.Sublist added := by
  cases h with
  | none plain => exact List.Sublist.refl _
  | last before isConsole plain => exact List.filter_sublist.append_right _

private theorem add_plain (h : LastConsole console added kept) {a : α} (ha : console a = false) :
    LastConsole console (added ++ [a]) (kept ++ [a]) := by
  cases h with
  | none plain =>
      refine .none fun b hb => ?_
      rcases List.mem_append.mp hb with hold | hnew
      · exact plain b hold
      · exact List.mem_singleton.mp hnew ▸ ha
  | @last before c after isConsole plain =>
      rw [List.append_assoc, List.append_assoc, List.cons_append]
      refine .last before isConsole fun b hb => ?_
      rcases List.mem_append.mp hb with hold | hnew
      · exact plain b hold
      · exact List.mem_singleton.mp hnew ▸ ha

private theorem add_console (h : LastConsole console added kept) {a : α} (ha : console a = true) :
    LastConsole console (added ++ [a]) (kept.filter (!console ·) ++ [a]) := by
  rw [h.others]
  exact .last added ha fun b hb => absurd hb List.not_mem_nil

end LastConsole

/-- The places registered so far since all were removed, when a call of the move begins. -/
def Move.addTo : Move → List Nat → List Nat
  | .register place, added => added ++ [place]
  | .unregisterAll, _ => []
  | _, added => added

def Move.keep (console : Nat → Bool) : Move → List Nat → List Nat
  | .register place, kept => (if console place then kept.filter (!console ·) else kept) ++ [place]
  | .unregisterAll, _ => []
  | _, kept => kept

private theorem LastConsole.move {console : Nat → Bool} {added kept : List Nat}
    (h : LastConsole console added kept) (move : Move) :
    LastConsole console (move.addTo added) (move.keep console kept) := by
  cases move with
  | register place =>
      cases hplace : console place with
      | true => simpa [Move.addTo, Move.keep, hplace] using h.add_console hplace
      | false => simpa [Move.addTo, Move.keep, hplace] using h.add_plain hplace
  | unregisterAll => exact .none fun a ha => absurd ha List.not_mem_nil
  | _ => exact h

/-- The places registered since all were removed, after the turn. -/
def addedBy (turn : Turn ω) (s : Threads (Shared H) Point) (added : List Nat) : List Nat :=
  match turn with
  | .caller i move => if s.points[i]? = some .idle then move.addTo added else added
  | _ => added

variable [Target H]

/-- Nothing that happens to a target makes it a console or stops it from being one. -/
structure KeepsConsole (own : ω → H → H) : Prop where
  offered : ∀ (now : Nat) (r : Record) (target : H) {target' : H},
    (Target.offer now r target).target? = some target' →
      Target.isConsole target' = Target.isConsole target
  asked : ∀ (now : Nat) (target : H),
    Target.isConsole (Target.askFlush now target).1 = Target.isConsole target
  alone : ∀ (deed : ω) (target : H),
    Target.isConsole (own deed target) = Target.isConsole target

variable {own : ω → H → H}

private theorem KeepsConsole.evolved (hown : KeepsConsole own) {w w' : Watched H}
    (h : Evolved own w w') : Target.isConsole w'.target = Target.isConsole w.target := by
  cases h with
  | same => rfl
  | offered now r reply =>
      cases reply with
      | answered target result reply => exact hown.offered now r w.target (by rw [reply]; rfl)
      | begun target reply => exact hown.offered now r w.target (by rw [reply]; rfl)
  | asked now => exact hown.asked now w.target
  | alone deed => exact hown.alone deed w.target

/-- The targets are those that were there, each with what has become of it. -/
structure Lasts (own : ω → H → H) (targets targets' : List (Watched H)) : Prop where
  evolves : Evolves own targets targets'
  length : targets'.length = targets.length

private theorem lasts_same (targets : List (Watched H)) : Lasts own targets targets :=
  ⟨evolves_same _, rfl⟩

private theorem lasts_callStep {move : Move} {point point' : Point} {s s' : Shared (Watched H)}
    (h : CallStep s move point point' s') :
    Lasts own s.dispatcher.targets s'.dispatcher.targets := by
  refine ⟨evolves_callStep h, ?_⟩
  cases h with
  | log now draft =>
      exact congrArg (List.length ∘ Scene.targets) (scene_log now draft s)
  | flush now tick timeout point waits =>
      exact congrArg (List.length ∘ Scene.targets) (scene_askFlush now tick timeout s.dispatcher)
  | ask index now place rest asked promised next =>
      have hoffers := congrArg List.length (called_askTarget now s.dispatcher place).offers
      simpa using hoffers
  | _ => rfl

theorem lasts_stepped {w w' : Worker Job} {scene scene' : Scene (Watched H)}
    (h : Worker.Stepped act w scene w' scene') : Lasts own scene.targets scene'.targets := by
  refine ⟨evolves_stepped h, ?_⟩
  rcases targets_stepped h with hsame | ⟨i, record, watched, after, -, -, hset⟩
  · rw [hsame]
  · rw [hset, List.length_set]

private theorem isConsoleAt_of_lasts (hown : KeepsConsole own) {d d' : Dispatcher (Watched H)}
    (h : Lasts own d.targets d'.targets) : d'.isConsoleAt = d.isConsoleAt := by
  funext i
  unfold isConsoleAt
  cases htarget : d'.targets[i]? with
  | none =>
      have hlength := List.getElem?_eq_none_iff.mp htarget
      rw [h.length] at hlength
      rw [List.getElem?_eq_none_iff.mpr hlength]
  | some w' =>
      obtain ⟨w, hw, hevolved⟩ := h.evolves i w' htarget
      rw [hw, Option.any_some, Option.any_some]
      exact hown.evolved hevolved

private theorem registered_askTarget (now : Nat) (d : Dispatcher (Watched H)) (place : Nat) :
    (d.askTarget now place).1.registered = d.registered := by
  unfold askTarget
  cases d.targets[place]? <;> rfl

private theorem registered_callStep {move : Move} {point point' : Point} {s s' : Shared (Watched H)}
    (h : CallStep s move point point' s') :
    s'.dispatcher.registered = move.keep s.dispatcher.isConsoleAt s.dispatcher.registered := by
  cases h with
  | log now draft => exact congrArg Scene.registered (scene_log now draft s)
  | flush now tick timeout point waits =>
      exact congrArg Scene.registered (scene_askFlush now tick timeout s.dispatcher)
  | ask index now place rest asked promised next => exact registered_askTarget now _ place
  | _ => rfl

theorem registered_stepped {w w' : Worker Job} {scene scene' : Scene (Watched H)}
    (h : Worker.Stepped act w scene w' scene') : scene'.registered = scene.registered := by
  cases h with
  | take job rest free popped => rfl
  | stop rest free popped => rfl
  | goOn job job' scene' busy left =>
      have hact := jobStep_act job scene
      rw [left] at hact
      cases hact <;> rfl
  | finish job scene' busy finished =>
      have hact := jobStep_act job scene
      rw [finished] at hact
      cases hact <;> rfl
  | crash job scene' busy panicked =>
      have hact := jobStep_act job scene
      rw [panicked] at hact
      cases hact

private theorem addedBy_of_callStep {s : Threads (Shared (Watched H)) Point} {i : Nat} {move : Move}
    {point point' : Point} {shared' : Shared (Watched H)} (hpoint : s.points[i]? = some point)
    (h : CallStep s.shared move point point' shared') (added : List Nat) :
    addedBy (.caller i move : Turn ω) s added = move.addTo added := by
  cases h with
  | drain ticket promised reached => exact ite_self added
  | ask index now place rest asked promised next => exact ite_self added
  | finish asked promised flushed ended => exact ite_self added
  | giveUp point promised busy => exact ite_self added
  | _ => exact if_pos hpoint

private theorem addedBy_of_stuck {s : Threads (Shared (Watched H)) Point} {i : Nat} {move : Move}
    (hstuck : ∀ point, s.points[i]? = some point → callStep move point s.shared = none)
    (added : List Nat) : addedBy (.caller i move : Turn ω) s added = added := by
  cases move with
  | register place => exact if_neg fun hidle => nomatch hstuck .idle hidle
  | unregisterAll => exact if_neg fun hidle => nomatch hstuck .idle hidle
  | _ => exact ite_self added

structure Registers (own : ω → H → H) (turn : Turn ω) (s s' : Threads (Shared (Watched H)) Point) :
    Prop where
  lasts : Lasts own s.shared.dispatcher.targets s'.shared.dispatcher.targets
  keeps : ∀ added,
    LastConsole s.shared.dispatcher.isConsoleAt added s.shared.dispatcher.registered →
      LastConsole s.shared.dispatcher.isConsoleAt (addedBy turn s added)
        s'.shared.dispatcher.registered

private theorem registers_caller (own : ω → H → H) (i : Nat) (move : Move)
    (s : Threads (Shared (Watched H)) Point) :
    Registers own (.caller i move) s (s.step callStep i move) := by
  rcases s.moves_or_stuck callStep i move with
    ⟨point, point', shared', hpoint, hact, hstep⟩ | ⟨hstuck, hstay⟩
  · have hcalled := callStep_cases hact
    rw [hstep]
    refine ⟨lasts_callStep hcalled, fun added h => ?_⟩
    rw [addedBy_of_callStep hpoint hcalled, registered_callStep hcalled]
    exact h.move move
  · rw [hstay]
    refine ⟨lasts_same _, fun added h => ?_⟩
    rwa [addedBy_of_stuck hstuck]

theorem registers_take (own : ω → H → H) (turn : Turn ω) (s : Threads (Shared (Watched H)) Point) :
    Registers own turn s (turn.take (Watched.own own) s) := by
  cases turn with
  | caller i move => exact registers_caller own i move s
  | worker =>
      cases hwork : s.shared.dispatcher.work? with
      | none =>
          simp only [Turn.take, hwork]
          exact ⟨lasts_same _, fun _ h => h⟩
      | some d =>
          simp only [Turn.take, hwork]
          obtain ⟨⟨worker, scene⟩, hstep, rfl⟩ := Option.map_eq_some_iff.mp hwork
          have hstepped := Worker.stepped_of_step? hstep
          refine ⟨lasts_stepped hstepped, fun added h => ?_⟩
          have hregistered : scene.registered = s.shared.dispatcher.registered :=
            registered_stepped hstepped
          rw [← hregistered] at h
          exact h
  | target i deed =>
      refine ⟨⟨evolves_modify fun w _ => .alone deed, ?_⟩, fun _ h => h⟩
      exact List.length_modify ..

namespace Chronicle

/-- The places that the turns register, as far as nobody removes them all afterwards. -/
def additions (own : ω → H → H) : List (Turn ω) → Chronicle H → List Nat → List Nat
  | [], _, added => added
  | turn :: rest, c, added => additions own rest (c.step own turn) (addedBy turn c.threads added)

theorem registered_run (hown : KeepsConsole own) (turns : List (Turn ω)) {c : Chronicle H}
    {added : List Nat}
    (h : LastConsole c.dispatcher.isConsoleAt added c.dispatcher.registered) :
    (c.run own turns).dispatcher.isConsoleAt = c.dispatcher.isConsoleAt ∧
      LastConsole c.dispatcher.isConsoleAt (c.additions own turns added)
        (c.run own turns).dispatcher.registered := by
  induction turns generalizing c added with
  | nil => exact ⟨rfl, h⟩
  | cons turn rest ih =>
      have hregisters := registers_take own turn c.threads
      have hsame : (c.step own turn).dispatcher.isConsoleAt = c.dispatcher.isConsoleAt :=
        isConsoleAt_of_lasts hown hregisters.lasts
      have hkept := hregisters.keeps added h
      -- The rest of the run is about what are consoles after the turn, which are the same.
      have hrest := ih (c := c.step own turn) (hsame ▸ hkept)
      rwa [hsame] at hrest

end Chronicle

end Dispatcher

end LogShipping
