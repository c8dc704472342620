import LogShipping.Proofs.Dispatcher.Assurance
import Mathlib.Data.List.Induction
import Mathlib.Data.List.Perm.Basic

namespace LogShipping.Dispatcher

variable {H ω : Type} [Target H]

namespace Chronicle

variable {own : ω → H → H} {origin : Origin} {c : Chronicle H}

omit [Target H] in
/-- How many offers to the target at `place` the first `count` records sent out come to. -/
def offersTo (place count : Nat) (c : Chronicle H) : Nat :=
  ((c.dispatched.take count).flatMap (copies place)).length

def Returns (own : ω → H → H) (i : Nat) (move : Move) (outcome : FlushOutcome) (c : Chronicle H) :
    Prop :=
  (c.step own (.caller i move)).threads.shared.flushes =
    c.threads.shared.flushes ++ [outcome]

/-- Where the flush of caller `i` is after `turns`. -/
inductive Underway (own : ω → H → H) (i ticket promised : Nat) (c : Chronicle H)
    (turns : List (Turn ω)) : Prop
  | draining (here : (c.run own turns).threads.points[i]? = some (.draining ticket promised))
  | flushing (upTo : List (Turn ω)) (rest : List Nat) (asked : List (Nat × Option Nat))
      (within : upTo <+: turns) (reached : (c.run own upTo).dispatcher.isReached ticket = true)
      (all : (rest ++ asked.map Prod.fst).Perm (c.run own upTo).dispatcher.registered)
      (here : (c.run own turns).threads.points[i]? = some (.flushing rest asked promised))

private theorem perm_ask {rest : List Nat} {index place : Nat} (next : rest[index]? = some place)
    (asked : List Nat) : (rest.eraseIdx index ++ (asked ++ [place])).Perm (rest ++ asked) := by
  obtain ⟨hindex, rfl⟩ := List.getElem?_eq_some_iff.mp next
  have hmoved : (rest.eraseIdx index ++ (asked ++ [rest[index]])).Perm
      (rest[index] :: rest.eraseIdx index ++ asked) := by
    rw [← List.append_assoc]
    exact List.perm_append_singleton _ _
  exact hmoved.trans ((List.getElem_cons_eraseIdx_perm hindex).append_right asked)

variable {i ticket promised : Nat} {turns : List (Turn ω)}

private theorem Underway.stay (h : Underway own i ticket promised c turns) {turn : Turn ω}
    (hsame : (c.run own (turns ++ [turn])).threads.points[i]? =
      (c.run own turns).threads.points[i]?) :
    Underway own i ticket promised c (turns ++ [turn]) := by
  cases h with
  | draining here => exact .draining (hsame.trans here)
  | flushing upTo rest asked within reached all here =>
      exact .flushing upTo rest asked (within.trans (List.prefix_append _ _)) reached all
        (hsame.trans here)

private theorem Underway.move (h : Underway own i ticket promised c turns) {turn : Turn ω}
    {move : Move} {point point' : Point} {shared' : Shared (Watched H)}
    (standing : (c.run own turns).threads.points[i]? = some point)
    (moved : CallStep (c.run own turns).threads.shared move point point' shared')
    (here : (c.run own (turns ++ [turn])).threads.points[i]? = some point')
    (hbusy : point' ≠ .idle) : Underway own i ticket promised c (turns ++ [turn]) := by
  cases h with
  | draining before =>
      obtain rfl := Option.some.inj (standing.symm.trans before)
      cases moved with
      | drain _ _ reached =>
          refine .flushing turns _ [] (List.prefix_append _ _) reached ?_ here
          rw [List.map_nil, List.append_nil]
          exact .refl _
      | giveUp point promised busy => exact absurd rfl hbusy
  | flushing upTo rest asked within reached all before =>
      obtain rfl := Option.some.inj (standing.symm.trans before)
      cases moved with
      | ask index now place rest asked _ next =>
          refine .flushing upTo _ _ (within.trans (List.prefix_append _ _)) reached ?_ here
          rw [List.map_append]
          exact (perm_ask next _).trans all
      | finish asked promised flushed ended => exact absurd rfl hbusy
      | giveUp point promised busy => exact absurd rfl hbusy

theorem Underway.step (h : Underway own i ticket promised c turns)
    (hserving : (c.run own turns).dispatcher.worker.Serving) (turn : Turn ω)
    (hbusy : (c.run own (turns ++ [turn])).threads.points[i]? ≠ some .idle) :
    Underway own i ticket promised c (turns ++ [turn]) := by
  have hadvanced := advanced_step hserving own turn
  rw [← run_concat] at hadvanced
  generalize hnext : c.run own (turns ++ [turn]) = c' at hadvanced hbusy
  have hstay : c'.threads.points[i]? = (c.run own turns).threads.points[i]? →
      Underway own i ticket promised c (turns ++ [turn]) := fun hsame => by
    refine h.stay ?_
    rw [hnext]
    exact hsame
  cases hadvanced with
  | rest same => exact hstay (by rw [same])
  | work stepped threads tickets admitted dispatched => exact hstay (by rw [threads])
  | alone j deed same => exact hstay (by rw [same])
  | call j move point point' job standing moved called points taken admitted dispatched =>
      by_cases hij : j = i
      · subst hij
        have here : c'.threads.points[j]? = some point' := by
          rw [points]
          exact List.getElem?_set_self (List.getElem?_eq_some_iff.mp standing).1
        refine h.move standing moved (hnext ▸ here) ?_
        rintro rfl
        exact hbusy here
      · refine hstay ?_
        rw [points]
        exact List.getElem?_set_ne hij

theorem underway_of_run (hkept : c.Kept origin) (hstart : Underway own i ticket promised c [])
    (turns : List (Turn ω)) (hbusy : ∀ part, part <+: turns →
      (c.run own part).threads.points[i]? ≠ some .idle) :
    Underway own i ticket promised c turns := by
  induction turns using List.reverseRecOn with
  | nil => exact hstart
  | append_singleton turns turn ih =>
      have hbefore := ih fun part hpart => hbusy part (hpart.trans (List.prefix_append _ _))
      exact hbefore.step (kept_run hkept own turns).serving turn (hbusy _ List.prefix_rfl)

theorem underway_of_flush {time : Nat} {tick : Tick} {timeout : Span}
    (hidle : c.threads.points[i]? = some .idle)
    (hbusy : (c.step own (.caller i (.flush time tick timeout))).threads.points[i]? ≠
      some .idle) :
    Underway own i c.dispatcher.tickets c.threads.shared.taken.length
      (c.step own (.caller i (.flush time tick timeout))) [] := by
  refine .draining ?_
  have hthreads : (c.step own (.caller i (.flush time tick timeout))).threads =
      c.threads.step callStep i (.flush time tick timeout) := rfl
  have hset (point : Point) : (c.threads.points.set i point)[i]? = some point :=
    List.getElem?_set_self (List.getElem?_eq_some_iff.mp hidle).1
  simp only [hthreads, Threads.step, hidle, callStep, hset] at hbusy
  simp only [run, List.foldl_nil, hthreads, Threads.step, hidle, callStep, hset]
  rcases called_askFlush time tick timeout c.dispatcher with ⟨hnone, -⟩ | ⟨hsome, -⟩
  · have hticket : (askFlush time tick timeout c.threads.shared.dispatcher).2 = none := hnone
    simp [hticket] at hbusy
  · have hticket : (askFlush time tick timeout c.threads.shared.dispatcher).2 =
        some c.dispatcher.tickets := hsome
    rw [hticket]

theorem returns_cases {point : Point} (hpoint : c.threads.points[i]? = some point)
    (hbusy : point ≠ .idle) {move : Move} {outcome : FlushOutcome}
    (h : c.Returns own i move outcome) :
    (∃ asked, point = .flushing [] asked outcome.promised ∧
      c.dispatcher.outcome? asked = some outcome.flushed) ∨ outcome.flushed = false := by
  have hthreads : (c.step own (.caller i move)).threads = c.threads.step callStep i move := rfl
  unfold Returns at h
  rw [hthreads] at h
  rcases c.threads.moves_or_stuck callStep i move with
    ⟨before, after, shared', hbefore, hact, hstep⟩ | ⟨-, hstay⟩
  · obtain rfl := Option.some.inj (hbefore.symm.trans hpoint)
    rw [hstep] at h
    cases callStep_cases hact with
    | drain ticket promised reached => simp at h
    | ask index now place rest asked promised next => simp at h
    | finish asked promised flushed ended =>
        have houtcome : outcome = ⟨promised, flushed⟩ := by simpa [Shared.finish] using h.symm
        subst houtcome
        exact .inl ⟨asked, rfl, ended⟩
    | giveUp point promised busy =>
        have houtcome : outcome = ⟨promised, false⟩ := by simpa [Shared.finish] using h.symm
        subst houtcome
        exact .inr rfl
    | _ => exact absurd rfl hbusy
  · rw [hstay] at h
    simp at h

theorem returns_giveUp {point : Point} (hpoint : c.threads.points[i]? = some point)
    (hbusy : point ≠ .idle) : ∃ promised, c.Returns own i .giveUp ⟨promised, false⟩ := by
  have hthreads : (c.step own (.caller i .giveUp)).threads =
      c.threads.step callStep i .giveUp := rfl
  unfold Returns
  rw [hthreads]
  cases point with
  | idle => exact absurd rfl hbusy
  | draining ticket promised =>
      exact ⟨promised, by simp [Threads.step, hpoint, callStep, Shared.finish]⟩
  | flushing rest asked promised =>
      exact ⟨promised, by simp [Threads.step, hpoint, callStep, Shared.finish]⟩

theorem returns_resume {asked : List (Nat × Option Nat)} {flushed : Bool}
    (hpoint : c.threads.points[i]? = some (.flushing [] asked promised))
    (hover : c.dispatcher.outcome? asked = some flushed) :
    c.Returns own i .resume ⟨promised, flushed⟩ := by
  have hthreads : (c.step own (.caller i .resume)).threads =
      c.threads.step callStep i .resume := rfl
  have hover' : c.threads.shared.dispatcher.outcome? asked = some flushed := hover
  unfold Returns
  rw [hthreads]
  simp [Threads.step, hpoint, callStep, hover', Shared.finish]

/-- All that is sent out while a target is registered is sent to it. -/
theorem placed_of_run {place : Nat} (turns : List (Turn ω)) (hplace : ∀ part, part <+: turns →
      place ∈ (c.run own part).dispatcher.registered) {k : Nat} {sent : Record × List Nat}
    (hsent : (c.run own turns).dispatched[k]? = some sent) (hk : c.dispatched.length ≤ k) :
    place ∈ sent.2 := by
  -- What the last turn sends out, it sends to the targets registered before it.
  induction turns using List.reverseRecOn with
  | nil => exact absurd (List.getElem?_eq_some_iff.mp hsent).1 (Nat.not_lt.mpr hk)
  | append_singleton turns turn ih =>
      have hnow := hplace turns (List.prefix_append _ _)
      have hgrown : (c.run own (turns ++ [turn])).dispatched =
          (c.run own turns).dispatched ++ sentOut turn (c.run own turns).threads := by
        rw [run_concat]
        rfl
      rw [hgrown] at hsent
      by_cases hold : k < (c.run own turns).dispatched.length
      · rw [List.getElem?_append_left hold] at hsent
        exact ih (fun part hpart => hplace part (hpart.trans (List.prefix_append _ _))) hsent
      · rw [List.getElem?_append_right (Nat.not_lt.mp hold)] at hsent
        have hmem := List.mem_of_getElem? hsent
        cases turn with
        | worker =>
            simp only [sentOut, sending] at hmem
            split at hmem
            · rw [List.mem_singleton.mp hmem]
              exact hnow
            · cases hmem
        | caller j move => cases hmem
        | target j deed => cases hmem

end Chronicle

end LogShipping.Dispatcher
