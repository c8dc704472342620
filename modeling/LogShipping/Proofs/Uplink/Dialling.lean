import LogShipping.Proofs.Uplink.Transitions

/-!
What is dialled between one lookup and the next. The endpoints found stand in a row, and the dial
plan is a cut in it: what is before the cut has been dialled and has not answered, and the next
endpoint is behind it.
-/

namespace LogShipping

namespace Uplink

open Network

namespace Shipper

@[simp] theorem dials_retryAfter (delay : Span) (o : Outside) (s : Shipper) :
    (s.retryAfter delay o).dials = s.dials := by
  unfold retryAfter
  split <;> rfl

private theorem dials_note_other {event : Event} (h : event.dial? = none) (s : Shipper) :
    (s.note event).dials = s.dials :=
  congrArg Helm.dials (helm_note h s)

private theorem dials_lose (cause : IoError) (link : Link) (o : Outside) (s : Shipper) :
    (s.lose cause link o).dials = s.dials := by
  rw [lose, dials_retryAfter]
  exact dials_note_other rfl s

private theorem dials_unload (link : Link) (o : Outside) (s : Shipper) :
    (s.unload link o).dials = s.dials := by
  unfold unload
  split
  · rfl
  · exact dials_lose _ link o s

private theorem dials_ship (link : Link) (o : Outside) (s : Shipper) :
    (s.ship link o).dials = s.dials := by
  cases hread : o.read.isLoss with
  | true =>
      obtain ⟨cause, hship⟩ := ship_of_isLoss hread link s
      rw [hship, dials_lose]
  | false =>
      obtain ⟨backlog, buffer, released, hload⟩ := load_eq link s
      rw [ship_of_not_isLoss hread, dials_unload, hload]
      rfl

private theorem dials_lookUp (o : Outside) (s : Shipper) : (s.lookUp o).dials = s.dials := by
  unfold lookUp
  split
  · rfl
  · rw [dials_retryAfter, dials_note_other rfl]
  · rfl
  · rw [dials_retryAfter, dials_note_other rfl]

private theorem dials_wait (deadline : Tick) (o : Outside) (s : Shipper) :
    (s.wait deadline o).dials = s.dials := by
  unfold wait
  split <;> rfl

private theorem dials_dial {plan rest : DialPlan} {endpoint : Endpoint}
    (h : plan.next? = some (endpoint, rest)) (o : Outside) (s : Shipper) :
    (s.dial plan o).dials = s.dials ++ [(endpoint, o.reachable endpoint)] := by
  cases hreachable : o.reachable endpoint with
  | true =>
      simp only [dial, h, hreachable, if_true]
      exact dials_note (.dialled endpoint) s
  | false =>
      simp only [dial, h, hreachable, Bool.false_eq_true, if_false]
      split
      · rw [dials_retryAfter]
        exact dials_note (.dialFailed endpoint (o.obstacle endpoint)) s
      · exact dials_note (.dialFailed endpoint (o.obstacle endpoint)) s

private theorem dials_of_stopped {s : Shipper} {o : Outside}
    (h : s.halted ≠ none ∨ o.shutdown = true) : (s.step o).dials = s.dials := by
  by_cases hhalted : s.halted = none
  · rw [step_of_shutdown hhalted (h.resolve_left (not_not.mpr hhalted))]
    exact s.dials_publish
  · rw [step_of_halted hhalted]

private theorem dials_of_not_connecting {s : Shipper} (h : s.phase.stage ≠ .connecting)
    (o : Outside) : (s.step o).dials = s.dials := by
  by_cases hstopped : s.halted ≠ none ∨ o.shutdown = true
  · exact dials_of_stopped hstopped
  · rw [not_or, not_not, Bool.not_eq_true] at hstopped
    rw [step_of_running hstopped.1 hstopped.2, ← s.dials_publish]
    cases hphase : s.phase with
    | addressLookup => exact dials_lookUp o s.publish
    | retryWait deadline => exact dials_wait deadline o s.publish
    | sendLoop link => exact dials_ship link o s.publish
    | connecting plan =>
        rw [hphase] at h
        exact absurd rfl h

private theorem dials_of_connecting {s : Shipper} {o : Outside} (hrunning : s.halted = none)
    (hshutdown : o.shutdown = false) {plan rest : DialPlan} (hphase : s.phase = .connecting plan)
    {endpoint : Endpoint} (h : plan.next? = some (endpoint, rest)) :
    (s.step o).dials = s.dials ++ [(endpoint, o.reachable endpoint)] := by
  rw [step_of_running hrunning hshutdown, hphase, ← s.dials_publish]
  exact dials_dial h o s.publish

structure BacksOff (s : Shipper) (o : Outside) (delay : Delay) : Prop where
  running : s.halted = none
  wanted : o.shutdown = false
  row : Transition s o (.backOff delay)
  reached : s.Reaches o (.backOff delay) (s.step o)

end Shipper

def row (found : List Endpoint) : List Endpoint :=
  found.filter Endpoint.isV4 ++ found.filter fun endpoint => !endpoint.isV4

private theorem ofLookup_eq (found : List Endpoint) :
    DialPlan.ofLookup found = ⟨[], row found⟩ := by
  simp [DialPlan.ofLookup, row, List.partition_eq_filter_filter, Function.comp_def]

private theorem length_row (found : List Endpoint) : (row found).length = found.length := by
  have hsize := DialPlan.size_ofLookup found
  rw [ofLookup_eq, DialPlan.size, List.length_nil, Nat.zero_add] at hsize
  exact hsize

/-- The first `count` of them have been dialled and have not answered. -/
def silent (endpoints : List Endpoint) (count : Nat) : List (Endpoint × Bool) :=
  (endpoints.take count).map fun endpoint => (endpoint, false)

/-- How far the dials for one lookup have come, where `sent` tells whether there was a connection
and `backedOff` whether the long wait was begun. -/
inductive Course (endpoints : List Endpoint) (s : Shipper) (made : List (Endpoint × Bool))
    (sent backedOff : Prop) : Prop
  | dialling {count : Nat} (left : count < endpoints.length)
      (phase : s.phase = .connecting ⟨endpoints.take count, endpoints.drop count⟩)
      (dials : made = silent endpoints count) (notSent : ¬sent) (notBackedOff : ¬backedOff)
  | answered {count : Nat} {endpoint : Endpoint} (next : endpoints[count]? = some endpoint)
      (stage : s.phase.stage ≠ .connecting)
      (dials : made = silent endpoints count ++ [(endpoint, true)])
      (wasSent : sent) (notBackedOff : ¬backedOff)
  | exhausted (stage : s.halted ≠ none ∨ s.phase.stage ≠ .connecting)
      (notSending : s.phase.stage ≠ .sendLoop)
      (dials : made = silent endpoints endpoints.length) (notSent : ¬sent)
      (hasBackedOff : backedOff)

namespace Shipper

private theorem BacksOff.eq_of_row {s : Shipper} {o : Outside} {delay : Delay}
    (h : s.BacksOff o delay) {next : Next} (hrow : Transition s o next) : next = .backOff delay :=
  h.row.unique hrow

private theorem reaches_of_row {s : Shipper} {o : Outside} (hrunning : s.halted = none)
    (hplan : s.HasCandidate) (hshutdown : o.shutdown = false) {next : Next}
    (hrow : Transition s o next) : s.Reaches o next (s.step o) := by
  obtain ⟨other, hother, hreaches⟩ := transition_step hrunning hplan hshutdown
  rw [hrow.unique hother] at hreaches
  exact hreaches

private theorem halted_of_stopped {s : Shipper} {o : Outside}
    (h : s.halted ≠ none ∨ o.shutdown = true) : (s.step o).halted ≠ none := by
  by_cases hhalted : s.halted = none
  · simp [step_of_shutdown hhalted (h.resolve_left (not_not.mpr hhalted))]
  · rwa [step_of_halted hhalted]

private theorem not_backsOff_of_stopped {s : Shipper} {o : Outside}
    (h : s.halted ≠ none ∨ o.shutdown = true) (delay : Delay) : ¬s.BacksOff o delay := by
  intro hback
  rcases h with hhalted | hshutdown
  · exact hhalted hback.running
  · rw [hback.wanted] at hshutdown
    cases hshutdown

private theorem not_backsOff_long {s : Shipper} (h : s.phase.stage ≠ .connecting) {o : Outside}
    (hcycle : ∀ answer, ¬s.LooksUp o answer) : ¬s.BacksOff o .long := by
  rintro ⟨hrunning, hwanted, hrow, -⟩
  cases hrow with
  | resolvedToNothing phase answer => exact hcycle _ ⟨hrunning, hwanted, phase, answer⟩
  | unresolved phase answer => exact hcycle _ ⟨hrunning, hwanted, phase, answer⟩
  | lastCandidate phase next refuses last =>
      rw [phase] at h
      exact h rfl

/-- Without a lookup nothing new is dialled, and a connection there is not does not come about. -/
theorem stage_of_not_connecting {s : Shipper} (hplan : s.HasCandidate)
    (h : s.phase.stage ≠ .connecting) {o : Outside} (hcycle : ∀ answer, ¬s.LooksUp o answer) :
    (s.step o).phase.stage ≠ .connecting ∧
      (s.phase.stage ≠ .sendLoop → (s.step o).phase.stage ≠ .sendLoop) := by
  rcases phase_step_cases hplan o with hsame | ⟨hrunning, hwanted, next, hnext, hmoved⟩
  · rw [hsame]
    exact ⟨h, id⟩
  · rcases hmoved with hentered | ⟨delay, deadline, -, hwaits⟩
    · subst hentered
      generalize (s.step o).phase = phase' at hnext ⊢
      cases hnext with
      | resolved phase answer nonempty =>
          exact absurd ⟨hrunning, hwanted, phase, answer⟩ (hcycle _)
      | _ => simp_all [Phase.stage]
    · rw [hwaits]
      exact ⟨by simp [Phase.stage], fun _ => by simp [Phase.stage]⟩

end Shipper

private theorem silent_succ {endpoints : List Endpoint} {count : Nat} {endpoint : Endpoint}
    (h : endpoints[count]? = some endpoint) :
    silent endpoints (count + 1) = silent endpoints count ++ [(endpoint, false)] := by
  simp [silent, List.take_add_one, h]

private theorem next?_cut {endpoints : List Endpoint} {count : Nat} {endpoint : Endpoint}
    (h : endpoints[count]? = some endpoint) :
    DialPlan.next? ⟨endpoints.take count, endpoints.drop count⟩ =
      some (endpoint, ⟨endpoints.take (count + 1), endpoints.drop (count + 1)⟩) := by
  obtain ⟨hcount, hget⟩ := List.getElem?_eq_some_iff.mp h
  rw [DialPlan.next?, List.drop_eq_getElem_cons hcount, hget]
  simp [List.take_add_one, h]

section

variable {endpoints : List Endpoint} {s : Shipper} {made : List (Endpoint × Bool)}
  {sent backedOff : Prop}

private theorem exhausted_of_backsOff {o : Outside} (h : s.BacksOff o .long)
    (hstage : s.phase.stage ≠ .sendLoop) (notSent : ¬sent) :
    Course endpoints (s.step o) (silent endpoints endpoints.length)
      (sent ∨ (s.step o).phase.stage = .sendLoop) (backedOff ∨ s.BacksOff o .long) := by
  have hreached := h.reached
  simp only [Shipper.Reaches] at hreached
  split at hreached
  · refine .exhausted ?_ ?_ rfl ?_ (.inr h) <;> simp [hreached, Phase.stage, notSent]
  · refine .exhausted ?_ ?_ rfl ?_ (.inr h)
    · simp [hreached]
    · rw [hreached.1]
      exact hstage
    · rw [hreached.1]
      exact not_or.mpr ⟨notSent, hstage⟩

private theorem course_of_dial {count : Nat} (hcount : count < endpoints.length)
    (hphase : s.phase = .connecting ⟨endpoints.take count, endpoints.drop count⟩)
    (notSent : ¬sent) (notBackedOff : ¬backedOff) (hplan : s.HasCandidate) {o : Outside}
    (hrunning : s.halted = none) (hshutdown : o.shutdown = false) :
    ∃ more, (s.step o).dials = s.dials ++ more ∧
      Course endpoints (s.step o) (silent endpoints count ++ more)
        (sent ∨ (s.step o).phase.stage = .sendLoop) (backedOff ∨ s.BacksOff o .long) := by
  have hget : endpoints[count]? = some endpoints[count] := List.getElem?_eq_getElem hcount
  generalize endpoints[count] = endpoint at hget
  have hnext := next?_cut hget
  refine ⟨_, Shipper.dials_of_connecting hrunning hshutdown hphase hnext, ?_⟩
  cases hreachable : o.reachable endpoint with
  | true =>
      have hrow : Transition s o (.enter (.sendLoop { endpoint })) :=
        .connected hphase hnext hreachable
      obtain ⟨hentered, -⟩ := Shipper.reaches_of_row hrunning hplan hshutdown hrow
      refine .answered hget ?_ rfl ?_ ?_
      · simp [hentered, Phase.stage]
      · simp [hentered, Phase.stage]
      · rintro (hbefore | hback)
        · exact notBackedOff hbefore
        · cases hback.eq_of_row hrow
  | false =>
      rw [← silent_succ hget]
      -- The endpoint is taken from the plan before it is asked whether anything is left.
      by_cases hleft : count + 1 < endpoints.length
      · have hrow : Transition s o (.enter (.connecting _)) :=
          .nextCandidate hphase hnext hreachable (by simpa [DialPlan.isExhausted] using hleft)
        obtain ⟨hentered, -⟩ := Shipper.reaches_of_row hrunning hplan hshutdown hrow
        refine .dialling hleft hentered rfl ?_ ?_
        · simp [hentered, Phase.stage, notSent]
        · rintro (hbefore | hback)
          · exact notBackedOff hbefore
          · cases hback.eq_of_row hrow
      · have hall : count + 1 = endpoints.length := by omega
        have hrow : Transition s o (.backOff .long) :=
          .lastCandidate hphase hnext hreachable
            (by simpa [DialPlan.isExhausted] using Nat.le_of_not_lt hleft)
        have hreaches := Shipper.reaches_of_row hrunning hplan hshutdown hrow
        rw [hall]
        exact exhausted_of_backsOff ⟨hrunning, hshutdown, hrow, hreaches⟩
          (by simp [hphase, Phase.stage]) notSent

private theorem Course.sent_of_sendLoop (h : Course endpoints s made sent backedOff)
    (hstage : s.phase.stage = .sendLoop) : sent := by
  cases h with
  | dialling left phase dials notSent notBackedOff =>
      rw [phase] at hstage
      cases hstage
  | answered next stage dials wasSent notBackedOff => exact wasSent
  | exhausted stage notSending dials notSent hasBackedOff => exact absurd hstage notSending

private theorem Course.still (h : Course endpoints s made sent backedOff) {s' : Shipper}
    (hphase : s'.phase = s.phase) (hhalted : s.halted ≠ none → s'.halted ≠ none)
    {sent' backedOff' : Prop} (hsent : sent' ↔ sent) (hback : backedOff' ↔ backedOff) :
    Course endpoints s' made sent' backedOff' := by
  rw [← hsent, ← hback] at h
  cases h with
  | dialling left phase dials notSent notBackedOff =>
      exact .dialling left (hphase.trans phase) dials notSent notBackedOff
  | answered next stage dials wasSent notBackedOff =>
      exact .answered next (by rwa [hphase]) dials wasSent notBackedOff
  | exhausted stage notSending dials notSent hasBackedOff =>
      exact .exhausted (stage.imp hhalted (by rw [hphase]; exact id)) (by rwa [hphase]) dials
        notSent hasBackedOff

theorem Course.step (h : Course endpoints s made sent backedOff) (hplan : s.HasCandidate)
    {o : Outside} (hcycle : ∀ answer, ¬s.LooksUp o answer) :
    ∃ more, (s.step o).dials = s.dials ++ more ∧
      Course endpoints (s.step o) (made ++ more) (sent ∨ (s.step o).phase.stage = .sendLoop)
        (backedOff ∨ s.BacksOff o .long) := by
  by_cases hstopped : s.halted ≠ none ∨ o.shutdown = true
  · refine ⟨[], by rw [Shipper.dials_of_stopped hstopped, List.append_nil], ?_⟩
    have hphase := Shipper.phase_of_stopped hstopped
    have hback := Shipper.not_backsOff_of_stopped hstopped .long
    rw [List.append_nil]
    refine h.still hphase (fun _ => Shipper.halted_of_stopped hstopped) ?_ ?_
    · rw [hphase, or_iff_left_of_imp h.sent_of_sendLoop]
    · rw [or_iff_left hback]
  · rw [not_or, not_not, Bool.not_eq_true] at hstopped
    obtain ⟨hrunning, hshutdown⟩ := hstopped
    cases h with
    | dialling left phase dials notSent notBackedOff =>
        rw [dials]
        exact course_of_dial left phase notSent notBackedOff hplan hrunning hshutdown
    | answered next stage dials wasSent notBackedOff =>
        refine ⟨[], by rw [Shipper.dials_of_not_connecting stage, List.append_nil], ?_⟩
        obtain ⟨hstage, -⟩ := Shipper.stage_of_not_connecting hplan stage hcycle
        have hback := Shipper.not_backsOff_long stage hcycle
        rw [List.append_nil]
        exact .answered next hstage dials (.inl wasSent) (not_or.mpr ⟨notBackedOff, hback⟩)
    | exhausted stage notSending dials notSent hasBackedOff =>
        have hdone := stage.resolve_left (not_not.mpr hrunning)
        refine ⟨[], by rw [Shipper.dials_of_not_connecting hdone, List.append_nil], ?_⟩
        obtain ⟨hstage, hkept⟩ := Shipper.stage_of_not_connecting hplan hdone hcycle
        rw [List.append_nil]
        exact .exhausted (.inr hstage) (hkept notSending) dials
          (not_or.mpr ⟨notSent, hkept notSending⟩) (.inl hasBackedOff)

private theorem not_mem_silent (endpoint : Endpoint) (count : Nat) :
    (endpoint, true) ∉ silent endpoints count := by
  intro hmem
  simp only [silent, List.mem_map] at hmem
  obtain ⟨other, -, hsame⟩ := hmem
  cases hsame

private theorem length_silent {count : Nat} (h : count ≤ endpoints.length) :
    (silent endpoints count).length = count := by
  simp [silent, h]

private theorem map_fst_silent (count : Nat) :
    (silent endpoints count).map Prod.fst = endpoints.take count := by
  simp [silent, Function.comp_def]

private theorem Course.inOrder (h : Course endpoints s made sent backedOff) :
    made.map Prod.fst <+: endpoints := by
  cases h with
  | dialling left phase dials notSent notBackedOff =>
      rw [dials, map_fst_silent]
      exact List.take_prefix _ _
  | @answered count endpoint next stage dials wasSent notBackedOff =>
      have hcut : made.map Prod.fst = endpoints.take (count + 1) := by
        rw [dials, List.map_append, map_fst_silent, List.take_add_one, next]
        rfl
      rw [hcut]
      exact List.take_prefix _ _
  | exhausted stage notSending dials notSent hasBackedOff =>
      rw [dials, map_fst_silent]
      exact List.take_prefix _ _

private theorem Course.silent_before_last (h : Course endpoints s made sent backedOff) :
    ∀ dial ∈ made.dropLast, dial.2 = false := by
  have hsilent : ∀ count, ∀ dial ∈ silent endpoints count, dial.2 = false := by
    intro count dial hmem
    simp only [silent, List.mem_map] at hmem
    obtain ⟨endpoint, -, rfl⟩ := hmem
    rfl
  intro dial hmem
  cases h with
  | dialling left phase dials notSent notBackedOff =>
      rw [dials] at hmem
      exact hsilent _ dial (List.mem_of_mem_dropLast hmem)
  | answered next stage dials wasSent notBackedOff =>
      rw [dials, List.dropLast_concat] at hmem
      exact hsilent _ dial hmem
  | exhausted stage notSending dials notSent hasBackedOff =>
      rw [dials] at hmem
      exact hsilent _ dial (List.mem_of_mem_dropLast hmem)

private theorem Course.next_dial (h : Course endpoints s made sent backedOff)
    (hrunning : s.halted = none) (hstage : s.phase.stage = .connecting) {o : Outside}
    (hshutdown : o.shutdown = false) : ∃ endpoint, endpoints[made.length]? = some endpoint ∧
      (s.step o).dials = s.dials ++ [(endpoint, o.reachable endpoint)] := by
  cases h with
  | @dialling count left phase dials notSent notBackedOff =>
      have hget : endpoints[count]? = some endpoints[count] := List.getElem?_eq_getElem left
      rw [dials, length_silent (Nat.le_of_lt left)]
      exact ⟨_, hget, Shipper.dials_of_connecting hrunning hshutdown phase (next?_cut hget)⟩
  | answered next stage dials wasSent notBackedOff => exact absurd hstage stage
  | exhausted stage notSending dials notSent hasBackedOff =>
      exact absurd hstage (stage.resolve_left (not_not.mpr hrunning))

theorem Course.sent_iff (h : Course endpoints s made sent backedOff) :
    sent ↔ ∃ endpoint, (endpoint, true) ∈ made := by
  cases h with
  | dialling left phase dials notSent notBackedOff =>
      rw [dials]
      exact iff_of_false notSent fun ⟨endpoint, hmem⟩ => not_mem_silent endpoint _ hmem
  | @answered count endpoint next stage dials wasSent notBackedOff =>
      rw [dials]
      exact iff_of_true wasSent ⟨endpoint, List.mem_append_right _ List.mem_cons_self⟩
  | exhausted stage notSending dials notSent hasBackedOff =>
      rw [dials]
      exact iff_of_false notSent fun ⟨endpoint, hmem⟩ => not_mem_silent endpoint _ hmem

theorem Course.backedOff_iff (h : Course endpoints s made sent backedOff) :
    backedOff ↔ made = silent endpoints endpoints.length := by
  cases h with
  | @dialling count left phase dials notSent notBackedOff =>
      refine iff_of_false notBackedOff fun hall => ?_
      have hlength := congrArg List.length (dials.symm.trans hall)
      rw [length_silent (Nat.le_of_lt left), length_silent (Nat.le_refl _)] at hlength
      exact Nat.ne_of_lt left hlength
  | @answered count endpoint next stage dials wasSent notBackedOff =>
      refine iff_of_false notBackedOff fun hall => ?_
      have hmem : (endpoint, true) ∈ made := by
        rw [dials]
        exact List.mem_append_right _ List.mem_cons_self
      rw [hall] at hmem
      exact not_mem_silent endpoint _ hmem
  | exhausted stage notSending dials notSent hasBackedOff => exact iff_of_true hasBackedOff dials

end

private theorem exists_prefix_concat (P : List Turn → Prop) (turns : List Turn) (turn : Turn) :
    (∃ part, part <+: turns ++ [turn] ∧ P part) ↔
      (∃ part, part <+: turns ∧ P part) ∨ P (turns ++ [turn]) := by
  constructor
  · rintro ⟨part, hpart, h⟩
    rcases List.prefix_concat_iff.mp hpart with rfl | hpart
    · exact .inr h
    · exact .inl ⟨part, hpart, h⟩
  · rintro (⟨part, hpart, h⟩ | h)
    · exact ⟨part, hpart.trans (List.prefix_append turns [turn]), h⟩
    · exact ⟨_, List.prefix_rfl, h⟩

private theorem course_of_lookUp {s : Shipper} (hplan : s.HasCandidate) {o : Outside}
    {found : List Endpoint} (h : s.LooksUp o (.ok found)) :
    (s.step o).dials = s.dials ∧
      Course (row found) (s.step o) [] ((s.step o).phase.stage = .sendLoop)
        (s.BacksOff o .long) := by
  refine ⟨Shipper.dials_of_not_connecting (by simp [h.phase, Phase.stage]) o, ?_⟩
  cases found with
  | nil =>
      have hrow : Transition s o (.backOff .long) := .resolvedToNothing h.phase h.answered
      have hreaches := Shipper.reaches_of_row h.running hplan h.wanted hrow
      have hcourse : Course (row []) (s.step o) (silent (row []) (row []).length)
          (False ∨ (s.step o).phase.stage = .sendLoop) (False ∨ s.BacksOff o .long) :=
        exhausted_of_backsOff ⟨h.running, h.wanted, hrow, hreaches⟩
          (by simp [h.phase, Phase.stage]) not_false
      rw [false_or, false_or] at hcourse
      exact hcourse
  | cons first rest =>
      have hrow : Transition s o (.enter (.connecting (.ofLookup (first :: rest)))) :=
        .resolved h.phase h.answered (List.cons_ne_nil first rest)
      obtain ⟨hentered, -⟩ := Shipper.reaches_of_row h.running hplan h.wanted hrow
      have hcut : (s.step o).phase = .connecting
          ⟨(row (first :: rest)).take 0, (row (first :: rest)).drop 0⟩ := by
        rw [hentered, ofLookup_eq]
        rfl
      refine .dialling ?_ hcut rfl ?_ ?_
      · rw [length_row]
        exact Nat.zero_lt_succ _
      · simp [hentered, Phase.stage]
      · intro hback
        cases hback.eq_of_row hrow

section

variable (settings : Settings) (now threads : Nat) (before : List Turn) (o : Outside)

theorem course_run (during : List Turn) {found : List Endpoint}
    (hlookup : (shipperAfter settings now threads before).LooksUp o (.ok found))
    (hcycle : ¬SomePass (fun first o' => ∃ answer,
      (shipperAfter settings now threads (before ++ .network o :: first)).LooksUp o' answer)
      during) :
    ∃ made, (shipperAfter settings now threads (before ++ .network o :: during)).dials =
        (shipperAfter settings now threads before).dials ++ made ∧
      Course (row found) (shipperAfter settings now threads (before ++ .network o :: during)) made
        (∃ part, part <+: during ∧
          (shipperAfter settings now threads (before ++ .network o :: part)).phase.stage =
            .sendLoop)
        (SomePass (fun first o' =>
            (shipperAfter settings now threads (before ++ first)).BacksOff o' .long)
          (.network o :: during)) := by
  induction during using List.reverseRecOn with
  | nil =>
      obtain ⟨hdials, hcourse⟩ :=
        course_of_lookUp (hasCandidate_run settings now threads before) hlookup
      rw [← shipperAfter_network] at hdials hcourse
      refine ⟨[], by rw [hdials, List.append_nil], ?_⟩
      refine hcourse.still rfl id ?_ ?_
      · simp
      · rw [← List.nil_append [Turn.network o], somePass_concat]
        simp [not_somePass_nil]
  | append_singleton during turn ih =>
      rw [somePass_concat, not_or] at hcycle
      obtain ⟨hcycleBefore, hturn⟩ := hcycle
      obtain ⟨made, hdials, hcourse⟩ := ih hcycleBefore
      have hplan := hasCandidate_run settings now threads (before ++ .network o :: during)
      have hturns : before ++ .network o :: (during ++ [turn]) =
          before ++ .network o :: during ++ [turn] := by simp
      have hsent := exists_prefix_concat (fun part =>
        (shipperAfter settings now threads (before ++ .network o :: part)).phase.stage = .sendLoop)
        during turn
      rw [← List.cons_append, hsent, somePass_concat, List.cons_append, hturns]
      rcases shipperAfter_concat settings now threads (before ++ .network o :: during) turn
        with ⟨o', rfl, hstep⟩ | ⟨hother, hsame⟩
      · have hwanted : ∀ answer,
            ¬(shipperAfter settings now threads (before ++ .network o :: during)).LooksUp o'
              answer := fun answer hlooks => hturn ⟨o', rfl, answer, hlooks⟩
        obtain ⟨more, hmore, hnext⟩ := hcourse.step hplan hwanted
        rw [hstep]
        refine ⟨made ++ more, by rw [hmore, hdials, List.append_assoc], ?_⟩
        refine hnext.still rfl id Iff.rfl ?_
        simp
      · refine ⟨made, (congrArg Helm.dials hsame).trans hdials, ?_⟩
        refine hcourse.still (congrArg Helm.phase hsame) (congrArg Helm.halted hsame).trans_ne
          ?_ ?_
        · rw [stage_of_helm hsame, or_iff_left_of_imp hcourse.sent_of_sendLoop]
        · exact or_iff_left fun ⟨o', hpass, _⟩ => hother o' hpass

end

/-- From a lookup to the next, the endpoints found are dialled in order, the older family first,
one in each pass, until one answers. It is then sent to, and nothing more is dialled. The long wait
comes when all of them have been dialled and none has answered, and only then. -/
theorem dialled_in_order (settings : Settings) (now threads : Nat) (before during : List Turn)
    (o : Outside) (found : List Endpoint)
    (hlookup : (shipperAfter settings now threads before).LooksUp o (.ok found))
    (hcycle : ¬SomePass (fun first o' => ∃ answer,
      (shipperAfter settings now threads (before ++ .network o :: first)).LooksUp o' answer)
      during) :
    let row := found.filter Endpoint.isV4 ++ found.filter fun endpoint => !endpoint.isV4
    let s := shipperAfter settings now threads (before ++ .network o :: during)
    ∃ made, s.dials = (shipperAfter settings now threads before).dials ++ made ∧
      made.map Prod.fst <+: row ∧ made.length ≤ found.length ∧
      (∀ dial ∈ made.dropLast, dial.2 = false) ∧
      ((∃ part, part <+: during ∧
          (shipperAfter settings now threads (before ++ .network o :: part)).phase.stage =
            .sendLoop) ↔ ∃ endpoint, (endpoint, true) ∈ made) ∧
      (SomePass (fun first o' =>
          (shipperAfter settings now threads (before ++ first)).BacksOff o' .long)
        (.network o :: during) ↔ made = row.map fun endpoint => (endpoint, false)) ∧
      (s.halted = none → s.phase.stage = .connecting → ∀ o', o'.shutdown = false →
        ∃ endpoint, row[made.length]? = some endpoint ∧
          (s.step o').dials = s.dials ++ [(endpoint, o'.reachable endpoint)]) := by
  intro endpoints s
  obtain ⟨made, hdials, hcourse⟩ :=
    course_run settings now threads before o during hlookup hcycle
  have hlength : made.length ≤ found.length := by
    rw [← length_row found, ← List.length_map Prod.fst]
    exact hcourse.inOrder.length_le
  refine ⟨made, hdials, hcourse.inOrder, hlength, hcourse.silent_before_last, hcourse.sent_iff,
    ?_, fun hrunning hstage _ hshutdown => hcourse.next_dial hrunning hstage hshutdown⟩
  rw [hcourse.backedOff_iff, silent, List.take_length]
  rfl

/-- Of four endpoints one is there twice, and it does not answer. The next one does. -/
theorem dialled_in_order_third :
    let older : Endpoint := ⟨.v4 #v[10, 0, 0, 1], 12201⟩
    let newer : Endpoint := ⟨.v6 #v[0, 0, 0, 0, 0, 0, 0, 1], 12201⟩
    let other : Endpoint := ⟨.v6 #v[0, 0, 0, 0, 0, 0, 0, 2], 12201⟩
    let found := [newer, older, other, older]
    let o : Outside := { tick := .start, found := some (.ok found) }
    let dial : Turn := .network { tick := .start, reachable := fun endpoint => endpoint = newer }
    let during := [dial, dial, dial, dial]
    let after := shipperAfter (.forServer "logs" 12201) 0 0
    (after []).LooksUp o (.ok found) ∧ ∃ made, (after (.network o :: during)).dials = made ∧
      made = [(older, false), (older, false), (newer, true)] ∧
      made.map Prod.fst <+: [older, older, newer, other] ∧ made.length ≤ 4 := by
  intro older newer other found o dial during after
  have hlookup : (after []).LooksUp o (.ok found) := ⟨rfl, rfl, rfl, rfl⟩
  have hstage : ∀ part ∈ during.inits,
      (after (.network o :: part)).phase.stage ≠ .addressLookup := by
    decide +kernel
  obtain ⟨made, hdials, horder, hlength, -⟩ :=
    dialled_in_order (.forServer "logs" 12201) 0 0 [] during o found hlookup (by
      rintro ⟨first, o', rest, hsplit, answer, hlooks⟩
      refine hstage first ((List.mem_inits first during).mpr ⟨_, hsplit.symm⟩) ?_
      exact congrArg Phase.stage hlooks.phase)
  have hmade : made = [(older, false), (older, false), (newer, true)] := by
    rw [← List.nil_append made]
    refine hdials.symm.trans ?_
    decide +kernel
  exact ⟨hlookup, made, hdials, hmade, horder, hlength⟩

end Uplink

end LogShipping
