import LogShipping.Proofs.Sink.Sessions
import Mathlib.Data.List.Infix

namespace LogShipping.FileSink.Archive

open LineSink (Outcome)

def text (content : Option (List UInt8)) (a : Archive) : List UInt8 :=
  content.getD [] ++ a.accepted.flatMap lineText

def stored (content : Option (List UInt8)) (a : Archive) : List UInt8 :=
  content.getD [] ++ a.past.flatMap lineText

structure Kept (content : Option (List UInt8)) (a : Archive) : Prop where
  place : a.place = .file (some (a.stored content)) ∨
    a.place = .file content ∧ a.past = [] ∧ (a.session = none → a.opened = 0)
  untouched : a.opened = 0 → a.session = none ∧ a.past = [] ∧ a.place = .file content
  session : ∀ s, a.session = some s → s.Kept (a.stored content) ∧ s.isOver = false

inductive Stepped (a : Archive) : Archive → Prop
  | rest : Stepped a a
  | refuse (cause : SetupError) : Stepped a { a with refused := a.refused ++ [cause] }
  | opens (layout : Layout) (capacity now callers : Nat) (sink : FileSink)
      (free : a.session = none) (ok : openAt a.place layout capacity now = .ok sink) :
      Stepped a { a with session := some (.start sink callers), opened := a.opened + 1 }
  | call (s : Session) (busy : a.session = some s) (i now : Nat) (move : LineSink.Move) :
      Stepped a (a.withSession (s.call i now move))
  | carry (s s' : Session) (busy : a.session = some s)
      (carried : ∀ before, s.Kept before → s'.Kept before ∧ s.Carried s') :
      Stepped a (a.withSession s')

section

variable {a : Archive} {s : Session}

private theorem step_openSink (h : a.session = none) (layout : Layout)
    (capacity now callers : Nat) : a.step
    (.openSink layout capacity now callers) = a.openSink layout capacity now callers := by
  simp only [step, h]

private theorem step_openSink_of_session (h : a.session = some s) (layout : Layout)
    (capacity now callers : Nat) : a.step (.openSink layout capacity now callers) = a := by
  simp only [step, h]

private theorem step_of_none (h : a.session = none) {event : Event}
    (hother : ∀ layout capacity now callers, event ≠ .openSink layout capacity now callers) :
    a.step event = a := by
  cases event with
  | openSink layout capacity now callers => exact absurd rfl (hother layout capacity now callers)
  | _ => simp only [step, h]

private theorem step_call (h : a.session = some s) (i now : Nat) (move : LineSink.Move) :
    a.step (.call i now move) = a.withSession (s.call i now move) := by
  simp only [step, h]

private theorem step_work (h : a.session = some s) : a.step .work = a.withSession s.work := by
  simp only [step, h]

private theorem step_drop (h : a.session = some s) : a.step .drop = a.withSession s.drop := by
  simp only [step, h]

end

theorem stepped_step (event : Event) (a : Archive) : Stepped a (a.step event) := by
  cases hsession : a.session with
  | none =>
      cases event with
      | openSink layout capacity now callers =>
          rw [step_openSink hsession, openSink]
          split
          · exact .refuse _
          · exact .opens layout capacity now callers _ hsession ‹_›
      | _ =>
          rw [step_of_none hsession (by simp)]
          exact .rest
  | some s =>
      cases event with
      | openSink layout capacity now callers =>
          rw [step_openSink_of_session hsession]
          exact .rest
      | call i now move =>
          rw [step_call hsession]
          exact .call s hsession i now move
      | work =>
          rw [step_work hsession]
          exact .carry s s.work hsession fun _ h => h.work
      | drop =>
          rw [step_drop hsession]
          exact .carry s s.drop hsession fun _ h => h.drop

private theorem accepted_of_session {a : Archive} {s : Session} (h : a.session = some s) :
    a.accepted = a.past ++ s.accepted := by
  simp [accepted, h]

private theorem accepted_of_none {a : Archive} (h : a.session = none) : a.accepted = a.past := by
  simp [accepted, h]

private theorem accepted_withSession (s : Session) (a : Archive) :
    (a.withSession s).accepted = a.past ++ s.accepted := by
  unfold withSession
  split <;> simp [accepted]

private theorem text_of_session {content : Option (List UInt8)} {a : Archive} {s : Session}
    (h : a.session = some s) : a.text content = a.stored content ++ s.accepted.flatMap lineText := by
  simp [text, stored, accepted_of_session h]

private theorem text_of_none {content : Option (List UInt8)} {a : Archive} (h : a.session = none) :
    a.text content = a.stored content := by
  rw [text, accepted_of_none h]
  rfl

section

variable {content : Option (List UInt8)} {a : Archive}

theorem kept_new (content : Option (List UInt8)) : (start (.file content)).Kept content :=
  ⟨.inr ⟨rfl, rfl, fun _ => rfl⟩, fun _ => ⟨rfl, rfl, rfl⟩, nofun⟩

private theorem Kept.withSession (h : a.Kept content) {s : Session} (hopened : a.opened ≠ 0)
    (hs : s.Kept (a.stored content)) : (a.withSession s).Kept content := by
  unfold Archive.withSession
  cases hover : s.isOver with
  | true =>
      have hplace : s.sink.place =
          .file (some (content.getD [] ++ (a.past ++ s.accepted).flatMap lineText)) := by
        rw [hs.place_eq, hs.content_of_isOver hover, List.flatMap_append, ← List.append_assoc]
        rfl
      exact ⟨.inl hplace, fun hnever => absurd hnever hopened, nofun⟩
  | false =>
      refine ⟨?_, fun hnever => absurd hnever hopened, ?_⟩
      · exact h.place.imp_right fun hfresh => ⟨hfresh.1, hfresh.2.1, nofun⟩
      · intro s' hs'
        obtain rfl := Option.some.inj hs'
        exact ⟨hs, hover⟩

private theorem Kept.opened_ne_zero (h : a.Kept content) {s : Session} (hs : a.session = some s) :
    a.opened ≠ 0 := by
  intro hnever
  cases (h.untouched hnever).1.symm.trans hs

private theorem Kept.exists_place (h : a.Kept content) :
    ∃ left, a.place = .file left ∧ left.getD [] = a.stored content := by
  rcases h.place with hplace | ⟨hplace, hpast, -⟩
  · exact ⟨_, hplace, rfl⟩
  · exact ⟨_, hplace, by simp [stored, hpast]⟩

theorem Kept.step (h : a.Kept content) (event : Event) : (a.step event).Kept content := by
  have hstep := stepped_step event a
  generalize a.step event = a' at hstep
  cases hstep with
  | rest => exact h
  | refuse cause => exact ⟨h.place, h.untouched, h.session⟩
  | opens layout capacity now callers sink free ok =>
      obtain ⟨left, hplace, hleft⟩ := h.exists_place
      refine ⟨h.place.imp_right fun hfresh => ⟨hfresh.1, hfresh.2.1, nofun⟩, nofun, ?_⟩
      intro s hs
      obtain rfl := Option.some.inj hs
      exact ⟨hleft ▸ (Session.kept_start hplace ok).1, rfl⟩
  | call s busy i now move =>
      exact h.withSession (h.opened_ne_zero busy) ((h.session s busy).1.call i now move)
  | carry s s' busy carried =>
      exact h.withSession (h.opened_ne_zero busy) (carried _ (h.session s busy).1).1

theorem kept_run (content : Option (List UInt8)) (events : List Event) :
    ((start (.file content)).run events).Kept content :=
  run_induction (fun _ event h => h.step event) events (kept_new content)

theorem Kept.accepted_step (h : a.Kept content) (event : Event) :
    a.accepted <+: (a.step event).accepted := by
  have hstep := stepped_step event a
  generalize a.step event = a' at hstep
  cases hstep with
  | rest => exact List.prefix_rfl
  | refuse cause => exact List.prefix_rfl
  | opens layout capacity now callers sink free ok =>
      rw [accepted_of_none free]
      exact List.prefix_append _ _
  | call s busy i now move =>
      rw [accepted_of_session busy, accepted_withSession]
      exact (List.prefix_append_right_inj _).mpr (s.accepted_call i now move)
  | carry s s' busy carried =>
      rw [accepted_of_session busy, accepted_withSession,
        (carried _ (h.session s busy).1).2.accepted]

private theorem Kept.accepted_step_of_calm (h : a.Kept content) (hcalm : a.isAdding = false)
    (event : Event) : (a.step event).accepted = a.accepted := by
  have hstep := stepped_step event a
  generalize a.step event = a' at hstep
  cases hstep with
  | rest => rfl
  | refuse cause => rfl
  | opens layout capacity now callers sink free ok =>
      rw [accepted_of_none free]
      exact List.append_nil _
  | call s busy i now move =>
      have hquiet : s.isAdding = false := by simpa [isAdding, busy] using hcalm
      rw [accepted_of_session busy, accepted_withSession, s.accepted_call_of_calm hquiet]
  | carry s s' busy carried =>
      rw [accepted_of_session busy, accepted_withSession,
        (carried _ (h.session s busy).1).2.accepted]

private theorem Kept.accepted_run_of_calm (h : a.Kept content) (during : List Event)
    (hcalm : ∀ part, part <+: during → (a.run part).isAdding = false) :
    (a.run during).accepted = a.accepted := by
  induction during generalizing a with
  | nil => rfl
  | cons event rest ih =>
      have hfirst : a.isAdding = false := hcalm [] List.nil_prefix
      have hrest := ih (h.step event) fun part hpart =>
        hcalm (event :: part) ((List.cons_prefix_cons).mpr ⟨rfl, hpart⟩)
      exact hrest.trans (h.accepted_step_of_calm hfirst event)

/-- What the path leads to is what the sessions have left, once one has begun. -/
theorem Kept.file_of_none (h : a.Kept content) (hnone : a.session = none) :
    a.file = if a.opened = 0 then .file content else .file (some (a.text content)) := by
  have hfile : a.file = a.place := by rw [file, hnone]
  rw [hfile, text_of_none hnone]
  split
  · exact (h.untouched ‹_›).2.2
  · rcases h.place with hplace | ⟨-, -, hnever⟩
    · exact hplace
    · exact absurd (hnever hnone) ‹_›

/-- Caller `i` has had no call under way since the file was to have the target. -/
structure Since (content : Option (List UInt8)) (target : List UInt8) (i : Nat) (a : Archive) :
    Prop extends a.Kept content where
  begins : target <+: a.text content
  guards : ∀ s, a.session = some s → s.Guards target i

private theorem since_of_idle (h : a.Kept content) {i : Nat} (hidle : a.point? i = some .idle) :
    a.Since content (a.text content) i := by
  refine ⟨h, List.prefix_rfl, fun s hs ticket closes hwaiting => ?_⟩
  have hpoint : s.threads.points[i]? = some .idle := by simpa [point?, hs] using hidle
  cases hpoint.symm.trans hwaiting

private theorem guards_withSession {target : List UInt8} {i : Nat} {s : Session}
    (h : s.Guards target i) : ∀ s', (a.withSession s).session = some s' → s'.Guards target i := by
  intro s' hs'
  unfold withSession at hs'
  split at hs'
  · cases hs'
  · obtain rfl := Option.some.inj hs'
    exact h

theorem Since.step {target : List UInt8} {i : Nat} (h : a.Since content target i)
    (event : Event) : (a.step event).Since content target i := by
  have hgrown : a.text content <+: (a.step event).text content := by
    obtain ⟨more, hmore⟩ := h.accepted_step event
    rw [text, text, ← hmore, List.flatMap_append, ← List.append_assoc]
    exact List.prefix_append _ _
  refine ⟨h.toKept.step event, h.begins.trans hgrown, ?_⟩
  have hstep := stepped_step event a
  generalize a.step event = a' at hstep
  cases hstep with
  | rest => exact h.guards
  | refuse cause => exact h.guards
  | opens layout capacity now callers sink free ok =>
      intro s hs ticket closes hwaiting
      obtain rfl := Option.some.inj hs
      cases List.eq_of_mem_replicate (List.mem_of_getElem? hwaiting)
  | call s busy j now move =>
      have htarget := h.begins
      rw [text_of_session busy] at htarget
      exact guards_withSession
        ((h.guards s busy).call (h.session s busy).1 htarget j now move)
  | carry s s' busy carried =>
      exact guards_withSession ((h.guards s busy).carried (carried _ (h.session s busy).1).2)

theorem Since.run {target : List UInt8} {i : Nat} (h : a.Since content target i)
    (events : List Event) : (a.run events).Since content target i :=
  run_induction (fun _ event hsince => hsince.step event) events h

private theorem Since.in_file {target : List UInt8} {i now : Nat} {move : LineSink.Move}
    {closes : Bool} (h : a.Since content target i)
    (hended : (a.step (.call i now move)).outcomes = a.outcomes ++ [.ofWait closes true]) :
    ∃ written, (a.step (.call i now move)).file = .file (some written) ∧ target <+: written ∧
      written <+: (a.step (.call i now move)).text content := by
  cases hsession : a.session with
  | none =>
      have hstay : a.step (.call i now move) = a := step_of_none hsession (by simp)
      simp [hstay] at hended
  | some s =>
      have hstep := step_call hsession i now move
      have houtcomes : a.outcomes = s.threads.shared.outcomes := by simp [outcomes, hsession]
      have hkept := (h.session s hsession).1
      have hkept' := hkept.call i now move
      rw [hstep, houtcomes] at hended
      rw [hstep]
      rcases s.call_cases i now move with
        hstay | ⟨-, point, point', hpoint, hmoved, -, hdropped⟩
      · rw [hstay, withSession, (h.session s hsession).2] at hended
        simp [outcomes] at hended
      · have hopen : a.withSession (s.call i now move) =
            { a with session := some (s.call i now move) } := by
          simp [withSession, Session.isOver, hdropped]
        rw [hopen] at hended ⊢
        obtain ⟨ticket, rfl, hanswer⟩ := hmoved.ended_true hended
        have hmade : ticket ∈ s.outflow.answers.map Prod.fst := by
          obtain ⟨before, after, hsplit, -⟩ := List.lookup_eq_some_iff.mp hanswer
          have hanswers : s.outflow.answers = before ++ (ticket, true) :: after := hsplit
          simp [hanswers]
        have hnodup : s.outflow.tickets.Nodup := hkept.tickets ▸ List.nodup_range
        have htarget := (h.guards s hsession ticket closes hpoint).in_file hnodup hmade
        obtain ⟨ended, job, hserved⟩ := hmoved.served
        have hdevice : (s.call i now move).outflow.device = s.outflow.device :=
          hserved.handed.device
        refine ⟨_, hkept'.place_eq, hdevice ▸ htarget, ?_⟩
        rw [text_of_session rfl]
        exact hkept'.content_prefix

theorem opened_step (event : Event) (a : Archive) : a.opened ≤ (a.step event).opened := by
  have hsession (s : Session) : (a.withSession s).opened = a.opened := by
    unfold withSession
    split <;> rfl
  have hstep := stepped_step event a
  generalize a.step event = a' at hstep
  cases hstep with
  | opens layout capacity now callers sink free ok => exact Nat.le_succ _
  | rest => exact Nat.le_refl _
  | refuse cause => exact Nat.le_refl _
  | call s busy i now move => exact Nat.le_of_eq (hsession _).symm
  | carry s s' busy carried => exact Nat.le_of_eq (hsession _).symm

private theorem Kept.accepted_work (h : a.Kept content) : (a.step .work).accepted = a.accepted := by
  cases hsession : a.session with
  | none => rw [step_of_none hsession (by simp)]
  | some s =>
      rw [step_work hsession, accepted_withSession, accepted_of_session hsession,
        (h.session s hsession).1.work.2.accepted]

/-- A drop is over some time, and then everything is in the file. -/
theorem Kept.ends (h : a.Kept content) {s : Session} (hs : a.session = some s)
    (hdropped : s.dropped = true) :
    ∃ n, (a.run (List.replicate n .work)).session = none ∧
      (a.run (List.replicate n .work)).file = .file (some (a.text content)) := by
  -- By induction on the steps that the worker has left at most.
  generalize hleft : s.sink.lines.worker.steps LineSink.callsOf = left
  induction left using Nat.strongRecOn generalizing a s with
  | ind left ih =>
      obtain ⟨hkept, hwaits⟩ := h.session s hs
      have hstep := step_work hs
      have hopened : (a.step .work).opened ≠ 0 :=
        Nat.ne_of_gt (Nat.lt_of_lt_of_le (Nat.pos_of_ne_zero (h.opened_ne_zero hs))
          (opened_step .work a))
      have htext : (a.step .work).text content = a.text content := by
        rw [text, h.accepted_work]
        rfl
      cases hover : s.work.isOver with
      | true =>
          have hnone : (a.step .work).session = none := by simp [hstep, Archive.withSession, hover]
          have hfile := (h.step .work).file_of_none hnone
          rw [if_neg hopened, htext] at hfile
          exact ⟨1, hnone, hfile⟩
      | false =>
          obtain ⟨hdropped', hless⟩ := hkept.steps_work hdropped hwaits
          have hsome : (a.step .work).session = some s.work := by
            simp [hstep, Archive.withSession, hover]
          obtain ⟨n, hn⟩ := ih _ (hleft ▸ hless) (h.step .work) hsome hdropped' rfl
          rw [htext] at hn
          exact ⟨n + 1, hn⟩

private theorem Kept.opens (h : a.Kept content) (hnone : a.session = none) (layout : Layout)
    {capacity : Nat} (hcapacity : 0 < capacity) (now callers : Nat) :
    (a.step (.openSink layout capacity now callers)).session.isSome ∧
      (a.step (.openSink layout capacity now callers)).file = .file (some (a.text content)) := by
  obtain ⟨left, hplace, hleft⟩ := h.exists_place
  have hopen : ∃ sink, openAt a.place layout capacity now = .ok sink := by
    simp [openAt, Nat.ne_of_gt hcapacity, hplace, Place.openToAppend]
  obtain ⟨sink, hsink⟩ := hopen
  have hstep : a.step (.openSink layout capacity now callers) =
      { a with session := some (.start sink callers), opened := a.opened + 1 } := by
    rw [step_openSink hnone, openSink, hsink]
  have hstart : (Session.start sink callers).Kept (left.getD []) ∧
      (Session.start sink callers).outflow.device.content = left.getD [] :=
    Session.kept_start hplace hsink
  rw [hstep]
  refine ⟨rfl, ?_⟩
  have hfile : (Session.start sink callers).sink.place = .file (some (a.text content)) := by
    rw [hstart.1.place_eq, hstart.2, hleft, text_of_none hnone]
  exact hfile

end

/-- A file on which sinks are opened one after another. When none is open, it has what it had at
first and the lines of all records accepted since, in the order in which they were accepted; it is
not there if it was not and none has been opened. A sink without capacity leaves no trace on it. When
a flush or a close returns true, every record accepted before its call began is in the file, and
nothing that has not been accepted; if no record was being added meanwhile, the file has just those.
A sink that is dropped is gone some time, and then so it is too. -/
theorem file_exact (content : Option (List UInt8)) (events : List Event) :
    let a := (start (.file content)).run events
    (a.session = none →
      a.file = if a.opened = 0 then .file content else .file (some (a.text content))) ∧
    (∀ layout now callers,
      let b := a.step (.openSink layout 0 now callers)
      b.file = a.file ∧ b.accepted = a.accepted ∧ b.opened = a.opened ∧
        (a.session = none →
          b.session = none ∧ b.refused = a.refused ++ [.invalid (.zero "capacity")])) ∧
    (∀ layout capacity now callers, 0 < capacity → a.session = none →
      let b := a.step (.openSink layout capacity now callers)
      b.session.isSome ∧ b.file = .file (some (a.text content))) ∧
    (∀ i during now closes, a.point? i = some .idle →
      let b := a.run during
      let c := b.step (.call i now .resume)
      c.outcomes = b.outcomes ++ [.ofWait closes true] →
        ∃ written, c.file = .file (some written) ∧ a.text content <+: written ∧
          written <+: c.text content ∧
          ((∀ part, part <+: during → (a.run part).isAdding = false) →
            written = c.text content)) ∧
    (∀ s, a.session = some s → s.dropped = true →
      ∃ n, (a.run (List.replicate n .work)).session = none ∧
        (a.run (List.replicate n .work)).file = .file (some (a.text content))) := by
  intro a
  have h : a.Kept content := kept_run content events
  refine ⟨h.file_of_none, fun layout now callers => ?_, fun layout capacity now callers hcapacity
    hnone => h.opens hnone layout hcapacity now callers, fun i during now closes hidle => ?_,
    fun s hs hdropped => h.ends hs hdropped⟩
  · intro b
    cases hsession : a.session with
    | none =>
        have hb : b = { a with refused := a.refused ++ [.invalid (.zero "capacity")] } :=
          step_openSink hsession layout 0 now callers
        rw [hb]
        exact ⟨rfl, rfl, rfl, fun _ => ⟨hsession, rfl⟩⟩
    | some s =>
        have hb : b = a := step_openSink_of_session hsession layout 0 now callers
        rw [hb]
        exact ⟨rfl, rfl, rfl, nofun⟩
  · intro b c hended
    have hsince : b.Since content (a.text content) i := (since_of_idle h hidle).run during
    obtain ⟨written, hfile, hbegins, hends⟩ := hsince.in_file hended
    refine ⟨written, hfile, hbegins, hends, fun hcalm => ?_⟩
    have hmeanwhile : b.accepted = a.accepted := h.accepted_run_of_calm during hcalm
    have hlast : c.accepted = b.accepted :=
      hsince.accepted_step_of_calm (hcalm during List.prefix_rfl) _
    have htext : c.text content = a.text content := by
      rw [text, hlast, hmeanwhile]
      rfl
    rw [htext] at hends ⊢
    exact hends.eq_of_length (Nat.le_antisymm hends.length_le hbegins.length_le)

/-- The first session is dropped with its line still on the way. In the second, opened after one
without capacity was refused, a close returns true. -/
theorem file_exact_two_sessions :
    let content : Option (List UInt8) := some (Text.utf8 "old\n")
    let record (message : String) : Record :=
      { severity := .error, message
        origin := { host := "box", processId := 42, processName := "svc" }, thread := "t"
        time := { seconds := 0, nanos := 0 }, fields := [] }
    let events : List Event :=
      [.openSink Record.message 1 0 1, .call 0 1 (.add (record "a")), .call 0 1 .resume, .drop] ++
        List.replicate 9 .work ++
        [.openSink Record.message 0 2 1, .openSink Record.thread 8 2 1,
          .call 0 3 (.add (record "b")), .call 0 3 .resume]
    let during : List Event :=
      .call 0 4 (.close ⟨.start, .ofSeconds 1⟩) :: .call 0 4 .resume :: List.replicate 9 .work
    let a := (start (.file content)).run events
    let c := (a.run during).step (.call 0 5 .resume)
    a.opened = 2 ∧ a.accepted.length = 2 ∧ c.file = .file (some (Text.utf8 "old\na\nt\n")) ∧
      ∃ written, c.file = .file (some written) ∧ written = c.text content := by
  intro content record events during a c
  have hidle : a.point? 0 = some .idle := by decide +kernel
  have hended : c.outcomes = (a.run during).outcomes ++ [.ofWait true true] := by decide +kernel
  have hcalm : ∀ part ∈ during.inits, (a.run part).isAdding = false := by decide +kernel
  obtain ⟨written, hfile, -, -, hexact⟩ :=
    (file_exact content events).2.2.2.1 0 during 5 true hidle hended
  exact ⟨by decide +kernel, by decide +kernel, by decide +kernel, written, hfile,
    hexact fun part hpart => hcalm part ((List.mem_inits part during).mpr hpart)⟩

end LogShipping.FileSink.Archive
