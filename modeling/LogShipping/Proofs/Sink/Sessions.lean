import LogShipping.Proofs.Sink.Closing
import LogShipping.Proofs.Sink.Outflow
import LogShipping.Sink.Sessions

namespace LogShipping

namespace LineSink

open Device (Buffered)

private theorem bytes_lineOf (entry : Record × Layout) :
    (lineOf entry).bytes = FileSink.lineText entry := by
  simp [lineOf, Job.bytes, linePieces, FileSink.lineText, Text.utf8_append]

private theorem Served.bytes {s s' : Shared Buffered} {outcomes : List Outcome} {job : Option Job}
    (h : Served s s' outcomes job) :
    job.toList.flatMap Job.bytes =
      ((outcomes.filterMap Outcome.accepted?).map fun r => (r, s.sink.layout)).flatMap
        FileSink.lineText := by
  have hlines := h.lines
  have hwrites : job.toList.flatMap Job.bytes =
      (job.toList.filter Job.isWrite).flatMap Job.bytes := by
    rcases job with _ | pieces | ticket <;> rfl
  rw [hwrites, hlines, List.flatMap_map, List.flatMap_map]
  exact List.flatMap_congr fun r _ => bytes_lineOf (r, s.sink.layout)

private theorem Moved.accepted_eq {now : Nat} {point point' : Point} {s s' : Shared Buffered}
    (h : Moved now s point point' s') (hcalm : ∀ r, point ≠ .cleared r) :
    s'.accepted = s.accepted := by
  cases h with
  | submit r sink room => exact absurd rfl (hcalm r)
  | refuse r full => exact absurd rfl (hcalm r)
  | reject r closed => simp [Shared.accepted, Shared.finish, Outcome.accepted?]
  | answer ticket closes ok answered =>
      simp [Shared.accepted, Shared.finish, accepted?_ofWait]
  | giveUp ticket closes => simp [Shared.accepted, Shared.finish, accepted?_ofWait]
  | clear r unclosed => rfl
  | shut wait => rfl
  | ask wait => rfl
  | askLast wait => rfl

end LineSink

namespace FileSink

open LineSink (Moved Served Handed Point Outcome)

namespace Session

def outflow (s : Session) : LineSink.Outflow :=
  s.sink.lines.outflow

/-- The session of a sink on a file that had the bytes `before`. -/
structure Sound (before : List UInt8) (s : Session) : Prop where
  room : s.outflow.device.isFull = false
  bytes : s.outflow.bytes = before ++ s.accepted.flatMap lineText
  tickets : s.outflow.tickets = List.range s.sink.lines.tickets
  serving : s.dropped = false → s.sink.lines.worker.Serving
  retiring : s.dropped = true → s.sink.lines.worker.Retiring
  upright : s.sink.lines.worker.activity ≠ .crashed

structure Kept (before : List UInt8) (s : Session) : Prop extends Sound before s where
  /-- The buffer does not outlive the last holder of the writer. -/
  emptied : s.dropped = true → s.outflow.jobs = [] → s.outflow.device.pending = []

def Guards (target : List UInt8) (i : Nat) (s : Session) : Prop :=
  ∀ ticket closes, s.threads.points[i]? = some (.waiting ticket closes) →
    s.outflow.Covers target ticket

structure Carried (s s' : Session) : Prop where
  points : s'.threads.points = s.threads.points
  accepted : s'.accepted = s.accepted
  covers : ∀ target ticket, s.outflow.Covers target ticket → s'.outflow.Covers target ticket

private theorem carried_self (s : Session) : Carried s s :=
  ⟨rfl, rfl, fun _ _ => id⟩

private theorem Carried.trans {s s' s'' : Session} (first : Carried s s')
    (second : Carried s' s'') : Carried s s'' :=
  ⟨second.points.trans first.points, second.accepted.trans first.accepted,
    fun target ticket h => second.covers target ticket (first.covers target ticket h)⟩

theorem Guards.carried {s s' : Session} {target : List UInt8} {i : Nat} (h : s.Guards target i)
    (hcarried : Carried s s') : s'.Guards target i := by
  intro ticket closes hwaiting
  rw [hcarried.points] at hwaiting
  exact hcarried.covers target ticket (h ticket closes hwaiting)

theorem call_cases (i now : Nat) (move : LineSink.Move) (s : Session) :
    s.call i now move = s ∨
      s.dropped = false ∧ ∃ point point', s.threads.points[i]? = some point ∧
        Moved now s.threads.shared point point' (s.call i now move).threads.shared ∧
        (s.call i now move).threads.points = s.threads.points.set i point' ∧
        (s.call i now move).dropped = false := by
  cases hdropped : s.dropped with
  | true => exact .inl (by simp [call, hdropped])
  | false =>
      have hcall : s.call i now move =
          { s with threads := s.threads.step (LineSink.callStep now) i move } := by
        simp [call, hdropped]
      rw [hcall]
      rcases s.threads.step_cases (LineSink.callStep now) i move with
        hstay | ⟨point, point', shared', hpoint, hact, hstep⟩
      · exact .inl (by rw [hstay])
      · rw [hstep]
        exact .inr ⟨rfl, point, point', hpoint, LineSink.moved_of_callStep hact, rfl, hdropped⟩

section

variable {before : List UInt8} {s s' : Session}

private theorem Sound.flows (h : s.Sound before) (hflows : s.outflow.Flows s'.outflow)
    (haccepted : s'.accepted = s.accepted)
    (htickets : s'.sink.lines.tickets = s.sink.lines.tickets)
    (serving : s'.dropped = false → s'.sink.lines.worker.Serving)
    (retiring : s'.dropped = true → s'.sink.lines.worker.Retiring)
    (upright : s'.sink.lines.worker.activity ≠ .crashed) : s'.Sound before where
  room := hflows.room h.room
  bytes := by rw [hflows.bytes, h.bytes, haccepted]
  tickets := by rw [hflows.tickets, h.tickets, htickets]
  serving
  retiring
  upright

theorem Sound.letGo (h : s.Sound before) : s.letGo.Kept before ∧ Carried s s.letGo := by
  unfold Session.letGo
  by_cases hholders : s.holders = 0
  · -- No job is left that could write what the buffer still holds.
    have hjobs : s.outflow.jobs = [] :=
      List.length_eq_zero_iff.mp (Nat.eq_zero_of_add_eq_zero_left hholders)
    have hspill : s.sink.lines.scene.device.spill.2 = s.sink.lines.scene.device.emptied :=
      congrArg Prod.snd (Device.Buffered.spill_eq h.room)
    rw [if_pos hholders]
    have hflows : s.outflow.Flows (s.onLines fun lines =>
        { lines with scene := { lines.scene with device := lines.scene.device.spill.2 } }).outflow := by
      have hout : (s.onLines fun lines =>
          { lines with scene := { lines.scene with
            device := lines.scene.device.spill.2 } }).outflow =
          { s.outflow with device := s.outflow.device.emptied } :=
        congrArg (fun device => (⟨device, s.outflow.jobs, s.outflow.answers⟩ : LineSink.Outflow))
          hspill
      rw [hout]
      exact .letGo hjobs
    refine ⟨⟨h.flows hflows rfl rfl h.serving h.retiring h.upright, fun _ _ => ?_⟩, rfl, rfl,
      fun _ _ => hflows.covers⟩
    exact congrArg Device.Buffered.pending hspill
  · rw [if_neg hholders]
    refine ⟨⟨h, fun hdropped hjobs => absurd ?_ hholders⟩, carried_self s⟩
    simp only [holders, hdropped, if_true, Nat.zero_add]
    exact List.length_eq_zero_iff.mpr hjobs

theorem Kept.work (h : s.Kept before) : s.work.Kept before ∧ Carried s s.work := by
  unfold Session.work FileSink.work?
  cases hwork : s.sink.lines.work? with
  | none => exact ⟨h, carried_self s⟩
  | some lines =>
      obtain ⟨hstep, hsame⟩ := LineSink.stepped_of_work? hwork
      have hflows : s.outflow.Flows (s.onLines fun _ => lines).outflow :=
        LineSink.flows_of_work? hwork h.room
      have haccepted : (s.onLines fun _ => lines).accepted = s.accepted := by
        have hlayout : lines.layout = s.sink.lines.layout := by rw [hsame]
        exact congrArg (fun layout => s.threads.shared.accepted.map fun r => (r, layout)) hlayout
      have hsound : (s.onLines fun _ => lines).Sound before :=
        h.toSound.flows hflows haccepted (by rw [hsame]; rfl)
          (fun hdropped => (h.serving hdropped).step hstep)
          (fun hdropped => (h.retiring hdropped).step hstep)
          (LineSink.upright_of_stepped hstep h.room)
      have hstepped : Carried s (s.onLines fun _ => lines) :=
        ⟨rfl, haccepted, fun _ _ => hflows.covers⟩
      obtain ⟨hkept, hcarried⟩ := hsound.letGo
      exact ⟨hkept, hstepped.trans hcarried⟩

theorem Kept.drop (h : s.Kept before) : s.drop.Kept before ∧ Carried s s.drop := by
  unfold Session.drop
  cases hfree : !s.dropped && s.threads.points.all (· == .idle) with
  | false => exact ⟨h, carried_self s⟩
  | true =>
      have hdropped : s.dropped = false := by
        simp only [Bool.and_eq_true, Bool.not_eq_true'] at hfree
        exact hfree.1
      let retired : Session := { s.onLines fun lines =>
        { lines with worker := lines.worker.retire } with dropped := true }
      have hpending : s.sink.lines.worker.retire.pending = s.sink.lines.worker.pending := by
        rw [Worker.pending, Worker.jobs_retire]
        rfl
      have hout : retired.outflow = s.outflow :=
        congrArg (fun jobs => (⟨s.outflow.device, jobs, s.outflow.answers⟩ : LineSink.Outflow))
          hpending
      have hflows : s.outflow.Flows retired.outflow := by
        rw [hout]
        exact .rest
      have hsound : retired.Sound before :=
        h.toSound.flows hflows rfl rfl (by simp [retired])
          (fun _ => (h.serving hdropped).retire) h.upright
      have hretired : Carried s retired := ⟨rfl, rfl, fun _ _ => hflows.covers⟩
      obtain ⟨hkept, hcarried⟩ := hsound.letGo
      exact ⟨hkept, hretired.trans hcarried⟩

private theorem accepted_of_served {outcomes : List Outcome} {job : Option LineSink.Job}
    (h : Served s.threads.shared s'.threads.shared outcomes job) :
    s'.accepted = s.accepted ++ (outcomes.filterMap Outcome.accepted?).map fun r =>
      (r, s.sink.lines.layout) := by
  have hlayout : s'.sink.lines.layout = s.sink.lines.layout := h.handed.layout
  rw [accepted, accepted, hlayout, LineSink.Shared.accepted, h.ended, List.filterMap_append,
    List.map_append]
  rfl

private theorem Kept.served (h : s.Kept before) {outcomes : List Outcome}
    {job : Option LineSink.Job} (hserved : Served s.threads.shared s'.threads.shared outcomes job)
    (hdropped : s.dropped = false) (hdropped' : s'.dropped = false) : s'.Kept before := by
  have hout : s'.outflow = s.outflow.hand job := hserved.handed.outflow
  have hdevice : s'.outflow.device = s.outflow.device := by rw [hout]; rfl
  refine ⟨⟨hdevice ▸ h.room, ?_, ?_, fun _ => hserved.handed.serving (h.serving hdropped), ?_, ?_⟩,
    ?_⟩
  · rw [hout, LineSink.Outflow.bytes_hand, h.bytes, hserved.bytes, accepted_of_served hserved,
      List.flatMap_append, List.append_assoc]
    rfl
  · rw [hout, LineSink.Outflow.tickets_hand, h.tickets]
    exact hserved.handed.tickets.symm
  · simp [hdropped']
  · exact hserved.handed.activity ▸ h.upright
  · simp [hdropped']

theorem Kept.call (h : s.Kept before) (i now : Nat) (move : LineSink.Move) :
    (s.call i now move).Kept before := by
  rcases call_cases i now move s with
    hstay | ⟨hdropped, point, point', -, hmoved, -, hdropped'⟩
  · rwa [hstay]
  · obtain ⟨outcomes, job, hserved⟩ := hmoved.served
    exact h.served hserved hdropped hdropped'

/-- A flush that a caller comes to wait for is behind every byte, and stays behind them. -/
theorem Guards.call {target : List UInt8} {i : Nat} (h : s.Guards target i) (hkept : s.Kept before)
    (htarget : target <+: before ++ s.accepted.flatMap lineText) (j now : Nat)
    (move : LineSink.Move) : (s.call j now move).Guards target i := by
  rcases call_cases j now move s with hstay | ⟨-, point, point', hpoint, hmoved, hpoints, -⟩
  · rwa [hstay]
  · intro ticket closes hwaiting
    rw [hpoints] at hwaiting
    by_cases hj : j = i
    · subst hj
      rw [List.getElem?_set_self (List.getElem?_eq_some_iff.mp hpoint).1] at hwaiting
      obtain rfl := Option.some.inj hwaiting
      have hout : (s.call j now move).outflow = s.outflow.hand (some (.flush ticket)) :=
        hmoved.handed_flush.outflow
      rw [hout]
      exact LineSink.Outflow.covers_hand_flush (hkept.bytes ▸ htarget) ticket
    · rw [List.getElem?_set_ne hj] at hwaiting
      obtain ⟨outcomes, job, hserved⟩ := hmoved.served
      have hout : (s.call j now move).outflow = s.outflow.hand job := hserved.handed.outflow
      rw [hout]
      exact (h ticket closes hwaiting).hand job

theorem accepted_call (i now : Nat) (move : LineSink.Move) (s : Session) :
    s.accepted <+: (s.call i now move).accepted := by
  rcases call_cases i now move s with hstay | ⟨-, point, point', -, hmoved, -, -⟩
  · exact hstay.symm ▸ List.prefix_rfl
  · obtain ⟨outcomes, job, hserved⟩ := hmoved.served
    rw [accepted_of_served hserved]
    exact List.prefix_append _ _

theorem accepted_call_of_calm (hcalm : s.isAdding = false) (i now : Nat) (move : LineSink.Move) :
    (s.call i now move).accepted = s.accepted := by
  rcases call_cases i now move s with hstay | ⟨-, point, point', hpoint, hmoved, -, -⟩
  · rw [hstay]
  · have hcleared (r : Record) : point ≠ .cleared r := by
      rintro rfl
      have hmem := List.mem_of_getElem? hpoint
      have hadding := List.any_eq_false.mp hcalm _ hmem
      exact hadding rfl
    obtain ⟨outcomes, job, hserved⟩ := hmoved.served
    have hlayout : (s.call i now move).sink.lines.layout = s.sink.lines.layout :=
      hserved.handed.layout
    rw [accepted, accepted, hlayout, hmoved.accepted_eq hcleared]

theorem Kept.place_eq (h : s.Kept before) :
    s.sink.place = .file (some s.outflow.device.content) := by
  have hroom : s.sink.device.isFull = false := h.room
  rw [FileSink.place, hroom]
  rfl

theorem Kept.content_prefix (h : s.Kept before) :
    s.outflow.device.content <+: before ++ s.accepted.flatMap lineText := by
  rw [← h.bytes, LineSink.Outflow.bytes, List.append_assoc]
  exact List.prefix_append _ _

theorem Kept.content_of_isOver (h : s.Kept before) (hover : s.isOver = true) :
    s.outflow.device.content = before ++ s.accepted.flatMap lineText := by
  simp only [isOver, Bool.and_eq_true, beq_iff_eq] at hover
  obtain ⟨hdropped, hstopped⟩ := hover
  have hjobs : s.outflow.jobs = [] := by
    have hnone := (h.retiring hdropped).jobs_of_stopped hstopped
    exact (Worker.pending_of_free (by simp [hstopped])).trans hnone
  have hbytes := h.bytes
  rw [LineSink.Outflow.bytes, hjobs, h.emptied hdropped hjobs] at hbytes
  simpa using hbytes

theorem kept_start {place : Place} {layout : Layout} {capacity now callers : Nat}
    {content : Option (List UInt8)} (hplace : place = .file content) {sink : FileSink}
    (hopen : FileSink.openAt place layout capacity now = .ok sink) :
    (start sink callers).Kept (content.getD []) ∧
      (start sink callers).outflow.device.content = content.getD [] := by
  subst hplace
  unfold openAt at hopen
  split at hopen
  · cases hopen
  · obtain rfl := Except.ok.inj hopen
    have hserving : (Worker.new : Worker LineSink.Job).Serving := Worker.serving_new
    refine ⟨⟨⟨rfl, ?_, rfl, fun _ => hserving, nofun, nofun⟩, nofun⟩, rfl⟩
    simp [outflow, start, sink, LineSink.outflow, LineSink.Outflow.bytes, accepted, Threads.start,
      LineSink.Shared.new, LineSink.Shared.accepted, LineSink.new, Worker.new, Worker.pending,
      Worker.hand, Worker.jobs, Backlog.empty, Backlog.items]

private theorem worker_letGo (s : Session) : s.letGo.sink.lines.worker = s.sink.lines.worker := by
  unfold letGo
  split <;> rfl

private theorem dropped_letGo (s : Session) : s.letGo.dropped = s.dropped := by
  unfold letGo
  split <;> rfl

theorem Kept.steps_work (h : s.Kept before) (hdropped : s.dropped = true)
    (hwaits : s.isOver = false) :
    s.work.dropped = true ∧ s.work.sink.lines.worker.steps LineSink.callsOf <
      s.sink.lines.worker.steps LineSink.callsOf := by
  rcases LineSink.stopped_or_steps h.room (h.retiring hdropped) h.upright with
    hstopped | ⟨worker, scene, hstep⟩
  · simp [isOver, hdropped, hstopped] at hwaits
  · have hwork : s.sink.work? = some ⟨{ s.sink.lines with worker, scene }⟩ := by
      rw [FileSink.work?, LineSink.work?, hstep]
      rfl
    unfold Session.work
    rw [hwork]
    dsimp only
    rw [dropped_letGo, worker_letGo]
    exact ⟨hdropped, LineSink.steps_of_stepped (Worker.stepped_of_step? hstep) h.room⟩

end

end Session

end FileSink

end LogShipping
