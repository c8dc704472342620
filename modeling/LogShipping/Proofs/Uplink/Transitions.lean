import LogShipping.Proofs.Uplink.Helm
import Mathlib.Data.List.Infix

/-!
The stages of a shipper as a table of transitions. Each pass follows one row of it, and no row is
for a dial plan that has run out, because none is ever reached. From the rows follow the ways a run
can take through the stages: from one connection to the next it waits and looks the address up anew.
-/

namespace LogShipping

namespace Uplink

open Network

/-- How long it waits before it looks the address up again. -/
inductive Delay where
  | long
  | short
  deriving DecidableEq

def Settings.retry (settings : Settings) : Delay → Span
  | .long => settings.longRetry
  | .short => settings.shortRetry

def ReadReply.isLoss : ReadReply → Bool
  | closed => true
  | failed kind => !kind.isTransient
  | _ => false

inductive Next where
  | enter (phase : Phase)
  | backOff (delay : Delay)

inductive Transition (s : Shipper) (o : Outside) : Next → Prop
  | resolved {found : List Endpoint} (phase : s.phase = .addressLookup)
      (answer : o.found = some (.ok found)) (nonempty : found ≠ []) :
      Transition s o (.enter (.connecting (.ofLookup found)))
  | resolvedToNothing (phase : s.phase = .addressLookup) (answer : o.found = some (.ok [])) :
      Transition s o (.backOff .long)
  | unresolved {reason : String} (phase : s.phase = .addressLookup)
      (answer : o.found = some (.error reason)) : Transition s o (.backOff .long)
  | unanswered (phase : s.phase = .addressLookup) (answer : o.found = none) :
      Transition s o (.enter .addressLookup)
  | timerRuns {deadline : Tick} (phase : s.phase = .retryWait deadline)
      (early : o.tick.reaches deadline = false) : Transition s o (.enter (.retryWait deadline))
  | timerFires {deadline : Tick} (phase : s.phase = .retryWait deadline)
      (due : o.tick.reaches deadline = true) : Transition s o (.enter .addressLookup)
  | connected {plan rest : DialPlan} {endpoint : Endpoint} (phase : s.phase = .connecting plan)
      (next : plan.next? = some (endpoint, rest)) (answers : o.reachable endpoint = true) :
      Transition s o (.enter (.sendLoop { endpoint }))
  | nextCandidate {plan rest : DialPlan} {endpoint : Endpoint}
      (phase : s.phase = .connecting plan) (next : plan.next? = some (endpoint, rest))
      (refuses : o.reachable endpoint = false) (left : rest.isExhausted = false) :
      Transition s o (.enter (.connecting rest))
  | lastCandidate {plan rest : DialPlan} {endpoint : Endpoint}
      (phase : s.phase = .connecting plan) (next : plan.next? = some (endpoint, rest))
      (refuses : o.reachable endpoint = false) (last : rest.isExhausted = true) :
      Transition s o (.backOff .long)
  | sends {link : Link} {sent : List UInt8} {rest : FrameBuffer} (phase : s.phase = .sendLoop link)
      (read : o.read.isLoss = false)
      (write : (s.load link).1.buffer.write (o.write (s.load link).1.buffer.size) =
        (rest, .ok sent)) :
      Transition s o (.enter
        (.sendLoop { (s.load link).2 with written := (s.load link).2.written ++ sent }))
  | readFails {link : Link} (phase : s.phase = .sendLoop link) (read : o.read.isLoss = true) :
      Transition s o (.backOff .short)
  | writeFails {link : Link} {cause : IoError} {rest : FrameBuffer}
      (phase : s.phase = .sendLoop link) (read : o.read.isLoss = false)
      (write : (s.load link).1.buffer.write (o.write (s.load link).1.buffer.size) =
        (rest, .error cause)) :
      Transition s o (.backOff .short)

/-- The shipper is in that phase, or waits for that time from now. If the clock has no reading for
the end of the wait, it has come to a halt where it was. -/
def Shipper.Reaches (s : Shipper) (o : Outside) (next : Next) (s' : Shipper) : Prop :=
  match next with
  | .enter phase => s'.phase = phase ∧ s'.halted = none
  | .backOff delay =>
    match o.tick.add? (s.settings.retry delay) with
    | some deadline => s'.phase = .retryWait deadline ∧ s'.halted = none
    | none => s'.phase = s.phase ∧ s'.halted = some .deadlineOutOfRange

/-- No two rows are for the same situation. -/
theorem Transition.unique {s : Shipper} {o : Outside} {next other : Next}
    (h : Transition s o next) (h' : Transition s o other) : other = next := by
  cases h <;> cases h' <;> grind

namespace Shipper

theorem publish_eq (s : Shipper) :
    ∃ journal, s.publish = { s with published := s.phase.stage, journal } := by
  unfold publish
  split
  · rename_i hsame
    exact ⟨s.journal, by rw [hsame]⟩
  · exact ⟨_, rfl⟩

/-- What is told to others has no effect on what is taken from the queue. -/
theorem load_withNotes (published : Stage) (journal : List Event) (link : Link) (s : Shipper) :
    ({ s with published, journal } : Shipper).load link =
      ({ (s.load link).1 with published, journal }, (s.load link).2) := by
  unfold load
  dsimp only
  split
  · rfl
  · split <;> rfl

theorem ship_of_isLoss {o : Outside} (h : o.read.isLoss = true) (link : Link) (s : Shipper) :
    ∃ cause, s.ship link o = s.lose cause link o := by
  cases hread : o.read with
  | closed => exact ⟨.closedByPeer, by simp [ship, hread]⟩
  | failed kind =>
      have hkind : kind.isTransient = false := by simpa [hread, ReadReply.isLoss] using h
      exact ⟨.bare kind, by simp [ship, hread, hkind]⟩
  | nothingYet => simp [hread, ReadReply.isLoss] at h
  | data => simp [hread, ReadReply.isLoss] at h

theorem ship_of_not_isLoss {link : Link} {o : Outside} (h : o.read.isLoss = false) (s : Shipper) :
    s.ship link o = (s.load link).1.unload (s.load link).2 o := by
  cases hread : o.read with
  | closed => simp [hread, ReadReply.isLoss] at h
  | failed kind =>
      have hkind : kind.isTransient = true := by simpa [hread, ReadReply.isLoss] using h
      simp [ship, hread, hkind]
  | nothingYet => simp [ship, hread]
  | data => simp [ship, hread]

theorem step_of_running {s : Shipper} {o : Outside} (h : s.halted = none)
    (hshutdown : o.shutdown = false) :
    s.step o =
      match s.phase with
      | .addressLookup => s.publish.lookUp o
      | .retryWait deadline => s.publish.wait deadline o
      | .connecting plan => s.publish.dial plan o
      | .sendLoop link => s.publish.ship link o := by
  have hsame : s.publish.phase = s.phase := by
    obtain ⟨journal, hpublish⟩ := publish_eq s
    rw [hpublish]
  cases hphase : s.phase <;>
    simp only [step, h, hshutdown, hsame, hphase, Option.isSome_none, Bool.false_eq_true, if_false]

theorem step_of_halted {s : Shipper} (h : s.halted ≠ none) (o : Outside) : s.step o = s := by
  simp [step, Option.isSome_iff_ne_none.mpr h]

theorem step_of_shutdown {s : Shipper} {o : Outside} (h : s.halted = none)
    (hshutdown : o.shutdown = true) : s.step o = { s.publish with halted := some .stopped } := by
  simp [step, h, hshutdown]

private theorem reaches_retryAfter {s : Shipper} (s' : Shipper) (hphase : s'.phase = s.phase)
    (h : s'.halted = none) (delay : Delay) {span : Span} (hspan : s.settings.retry delay = span)
    (o : Outside) : s.Reaches o (.backOff delay) (s'.retryAfter span o) := by
  simp only [Reaches, hspan]
  cases hadd : o.tick.add? span with
  | none => simp [retryAfter, hadd, hphase]
  | some deadline => simp [retryAfter, hadd, h]

private theorem reaches_longRetry {s : Shipper} (h : s.halted = none) (event : Event)
    (o : Outside) : s.Reaches o (.backOff .long)
      ((s.publish.note event).retryAfter s.publish.settings.longRetry o) := by
  obtain ⟨journal, hpublish⟩ := publish_eq s
  rw [hpublish]
  refine reaches_retryAfter _ ?_ ?_ .long ?_ o
  · rfl
  · exact h
  · rfl

private theorem reaches_lose {s s' : Shipper} (hphase : s'.phase = s.phase) (h : s'.halted = none)
    (hsettings : s'.settings = s.settings) (cause : IoError) (link : Link) (o : Outside) :
    s.Reaches o (.backOff .short) (s'.lose cause link o) := by
  have hspan : s.settings.retry .short = s'.settings.shortRetry := by
    rw [hsettings]
    rfl
  exact reaches_retryAfter
    { s'.note (.lost cause s'.buffer.size) with
      past := s'.past ++ [{ link with discarded := s'.buffer.bytes }]
      buffer := .empty }
    hphase h .short hspan o

private theorem transition_lookUp {s : Shipper} (h : s.halted = none)
    (hphase : s.phase = .addressLookup) (o : Outside) :
    ∃ next, Transition s o next ∧ s.Reaches o next (s.publish.lookUp o) := by
  obtain ⟨journal, hpublish⟩ := publish_eq s
  cases hfound : o.found with
  | none =>
      refine ⟨_, .unanswered hphase hfound, ?_⟩
      simp [lookUp, hfound, hpublish, Reaches, h, hphase]
  | some answer =>
      cases answer with
      | error reason =>
          refine ⟨_, .unresolved hphase hfound, ?_⟩
          simp only [lookUp, hfound]
          exact reaches_longRetry h _ o
      | ok found =>
          cases found with
          | nil =>
              refine ⟨_, .resolvedToNothing hphase hfound, ?_⟩
              simp only [lookUp, hfound]
              exact reaches_longRetry h _ o
          | cons first rest =>
              refine ⟨_, .resolved hphase hfound (List.cons_ne_nil first rest), ?_⟩
              simp [lookUp, hfound, Reaches, h]

private theorem transition_wait {s : Shipper} (h : s.halted = none) {deadline : Tick}
    (hphase : s.phase = .retryWait deadline) (o : Outside) :
    ∃ next, Transition s o next ∧ s.Reaches o next (s.publish.wait deadline o) := by
  obtain ⟨journal, hpublish⟩ := publish_eq s
  cases hdue : o.tick.reaches deadline with
  | true => exact ⟨_, .timerFires hphase hdue, by simp [wait, hdue, Reaches, h]⟩
  | false =>
      refine ⟨_, .timerRuns hphase hdue, ?_⟩
      simp [wait, hdue, hpublish, Reaches, h, hphase]

private theorem transition_dial {s : Shipper} (h : s.halted = none) {plan : DialPlan}
    (hphase : s.phase = .connecting plan) (hplan : plan.remaining ≠ []) (o : Outside) :
    ∃ next, Transition s o next ∧ s.Reaches o next (s.publish.dial plan o) := by
  obtain ⟨endpoint, others, hremaining⟩ := List.exists_cons_of_ne_nil hplan
  have hnext : plan.next? = some (endpoint, ⟨plan.dialled ++ [endpoint], others⟩) := by
    simp [DialPlan.next?, hremaining]
  obtain ⟨journal, hpublish⟩ := publish_eq s
  generalize DialPlan.mk (plan.dialled ++ [endpoint]) others = rest at hnext
  cases hreachable : o.reachable endpoint with
  | true =>
      refine ⟨_, .connected hphase hnext hreachable, ?_⟩
      simp [dial, hnext, hreachable, Reaches, note, h]
  | false =>
      cases hexhausted : rest.isExhausted with
      | false =>
          refine ⟨_, .nextCandidate hphase hnext hreachable hexhausted, ?_⟩
          simp [dial, hnext, hreachable, hexhausted, Reaches, note, h]
      | true =>
          refine ⟨_, .lastCandidate hphase hnext hreachable hexhausted, ?_⟩
          simp only [dial, hnext, hreachable, hexhausted, Bool.false_eq_true, if_false, if_true]
          exact reaches_longRetry h _ o

private theorem transition_ship {s : Shipper} (h : s.halted = none) {link : Link}
    (hphase : s.phase = .sendLoop link) (o : Outside) :
    ∃ next, Transition s o next ∧ s.Reaches o next (s.publish.ship link o) := by
  obtain ⟨journal, hpublish⟩ := publish_eq s
  cases hread : o.read.isLoss with
  | true =>
      obtain ⟨cause, hship⟩ := ship_of_isLoss hread link s.publish
      refine ⟨_, .readFails hphase hread, ?_⟩
      rw [hship]
      exact reaches_lose (by rw [hpublish]) (by simpa using h) s.settings_publish cause link o
  | false =>
      have hload := load_withNotes s.phase.stage journal link s
      have hhalted : (s.load link).1.halted = none := (halted_load link s).trans h
      have hloaded : (s.load link).1.phase = s.phase := by
        obtain ⟨backlog, buffer, released, hsame⟩ := load_eq link s
        rw [hsame]
      rw [ship_of_not_isLoss hread, hpublish, hload]
      rcases hwrite : (s.load link).1.buffer.write (o.write (s.load link).1.buffer.size)
        with ⟨rest, sent | cause⟩
      · refine ⟨_, .writeFails hphase hread hwrite, ?_⟩
        simp only [unload, hwrite]
        refine reaches_lose ?_ ?_ ?_ _ _ o
        · exact hloaded
        · exact hhalted
        · exact settings_load link s
      · refine ⟨_, .sends hphase hread hwrite, ?_⟩
        simp [unload, hwrite, Reaches, hhalted]

def HasCandidate (s : Shipper) : Prop :=
  ∀ plan, s.phase = .connecting plan → plan.remaining ≠ []

/-- A pass follows the table. -/
theorem transition_step {s : Shipper} (h : s.halted = none) (hplan : s.HasCandidate)
    {o : Outside} (hshutdown : o.shutdown = false) :
    ∃ next, Transition s o next ∧ s.Reaches o next (s.step o) := by
  rw [step_of_running h hshutdown]
  cases hphase : s.phase with
  | addressLookup => exact transition_lookUp h hphase o
  | retryWait deadline => exact transition_wait h hphase o
  | connecting plan => exact transition_dial h hphase (hplan plan hphase) o
  | sendLoop link => exact transition_ship h hphase o

theorem phase_of_stopped {s : Shipper} {o : Outside} (h : s.halted ≠ none ∨ o.shutdown = true) :
    (s.step o).phase = s.phase := by
  by_cases hhalted : s.halted = none
  · obtain ⟨journal, hpublish⟩ := publish_eq s
    rw [step_of_shutdown hhalted (h.resolve_left (not_not.mpr hhalted)), hpublish]
  · rw [step_of_halted hhalted]

theorem phase_step_cases {s : Shipper} (hplan : s.HasCandidate) (o : Outside) :
    (s.step o).phase = s.phase ∨
      s.halted = none ∧ o.shutdown = false ∧ ∃ next, Transition s o next ∧
        (next = .enter (s.step o).phase ∨
          ∃ delay deadline, next = .backOff delay ∧ (s.step o).phase = .retryWait deadline) := by
  by_cases hstopped : s.halted ≠ none ∨ o.shutdown = true
  · exact .inl (phase_of_stopped hstopped)
  · rw [not_or, not_not, Bool.not_eq_true] at hstopped
    obtain ⟨hhalted, hshutdown⟩ := hstopped
    obtain ⟨next, hnext, hreaches⟩ := transition_step hhalted hplan hshutdown
    unfold Reaches at hreaches
    split at hreaches
    · rename_i phase
      exact .inr ⟨hhalted, hshutdown, _, hnext, .inl (congrArg Next.enter hreaches.1.symm)⟩
    · rename_i delay
      split at hreaches
      · exact .inr ⟨hhalted, hshutdown, _, hnext, .inr ⟨delay, _, rfl, hreaches.1⟩⟩
      · exact .inl hreaches.1

private theorem remaining_ofLookup {found : List Endpoint} (h : found ≠ []) :
    (DialPlan.ofLookup found).remaining ≠ [] := by
  intro hnone
  have hsize := DialPlan.size_ofLookup found
  rw [DialPlan.size, hnone] at hsize
  exact h (List.length_eq_zero_iff.mp hsize.symm)

theorem HasCandidate.step {s : Shipper} (h : s.HasCandidate) (o : Outside) :
    (s.step o).HasCandidate := by
  intro plan hplan
  rcases phase_step_cases h o with hsame | ⟨-, -, next, hnext, hmoved⟩
  · exact h plan (hsame.symm.trans hplan)
  · rcases hmoved with hentered | ⟨delay, deadline, -, hwaits⟩
    · rw [hplan] at hentered
      subst hentered
      -- Two rows lead to a plan. One makes it of what was found, the other keeps one that has
      -- something left.
      cases hnext with
      | resolved phase answer nonempty => exact remaining_ofLookup nonempty
      | nextCandidate phase next refuses left => simpa [DialPlan.isExhausted] using left
    · rw [hplan] at hwaits
      cases hwaits

@[simp] theorem published_retryAfter (delay : Span) (o : Outside) (s : Shipper) :
    (s.retryAfter delay o).published = s.published := by
  unfold retryAfter
  split <;> rfl

theorem dials_publish (s : Shipper) : s.publish.dials = s.dials := by
  unfold publish
  split
  · rfl
  · exact congrArg Helm.dials (helm_note rfl s)

structure LooksUp (s : Shipper) (o : Outside) (answer : Except String (List Endpoint)) : Prop where
  running : s.halted = none
  wanted : o.shutdown = false
  phase : s.phase = .addressLookup
  answered : o.found = some answer

end Shipper

namespace Shipper

end Shipper

theorem stage_of_helm {s s' : Shipper} (h : s'.helm = s.helm) : s'.phase.stage = s.phase.stage :=
  congrArg (fun helm => helm.phase.stage) h

section

variable (settings : Settings) (now threads : Nat)

theorem hasCandidate_run (turns : List Turn) :
    (shipperAfter settings now threads turns).HasCandidate := by
  refine shipper_induction settings now threads (P := Shipper.HasCandidate) ?_ ?_ ?_ turns
  · intro plan hplan
    cases hplan
  · intro s o h
    exact h.step o
  · intro s s' hsame h plan hplan
    exact h plan ((congrArg Helm.phase hsame).symm.trans hplan)

end

namespace Shipper

/-- The lookup finds nothing, or the last endpoint does not answer. -/
def Fruitless (s : Shipper) (o : Outside) : Prop :=
  (s.phase = .addressLookup ∧
      (o.found = some (.ok []) ∨ ∃ reason, o.found = some (.error reason))) ∨
    ∃ plan endpoint, s.phase = .connecting plan ∧ plan.remaining = [endpoint] ∧
      o.reachable endpoint = false

structure Follows (s : Shipper) (o : Outside) (next : Next) : Prop where
  row : Transition s o next
  unique : ∀ other, Transition s o other → other = next
  reached : s.Reaches o next (s.step o)
  short : next = .backOff .short ↔
    s.phase.stage = .sendLoop ∧ ∀ link, next ≠ .enter (.sendLoop link)
  long : next = .backOff .long ↔ s.Fruitless o
  waiting : ∀ deadline, s.phase = .retryWait deadline →
    next = .enter (if o.tick.reaches deadline then .addressLookup else s.phase)

end Shipper

private theorem Transition.waiting {s : Shipper} {o : Outside} {next : Next}
    (h : Transition s o next) (deadline : Tick) (hphase : s.phase = .retryWait deadline) :
    next = .enter (if o.tick.reaches deadline then .addressLookup else s.phase) := by
  cases h <;> simp_all

end Uplink

end LogShipping
