import LogShipping.Proofs.Lists
import LogShipping.Proofs.Sink.Output
import LogShipping.Sink.FileSink

namespace LogShipping

namespace Device.Buffered

def emptied (d : Buffered) : Buffered :=
  ⟨d.content ++ d.pending, [], false⟩

theorem spill_eq {d : Buffered} (room : d.isFull = false) : d.spill = (true, d.emptied) := by
  obtain ⟨content, pending, isFull⟩ := d
  obtain rfl : isFull = false := room
  cases pending <;> simp [spill, emptied]

theorem write_eq {d : Buffered} (room : d.isFull = false) (bytes : List UInt8) :
    ∃ d', d.write bytes = (.took bytes.length, d') ∧ d'.isFull = false ∧
      d'.content ++ d'.pending = d.content ++ d.pending ++ bytes ∧ d.content <+: d'.content := by
  have hthrough (d₀ : Buffered) (room₀ : d₀.isFull = false)
      (hpending : capacity ≤ bytes.length → d₀.pending = []) :
      ∃ d', (if capacity ≤ bytes.length then d₀.writeThrough bytes
          else (.took bytes.length, { d₀ with pending := d₀.pending ++ bytes })) =
        (.took bytes.length, d') ∧ d'.isFull = false ∧
          d'.content ++ d'.pending = d₀.content ++ d₀.pending ++ bytes ∧
          d₀.content <+: d'.content := by
    by_cases hlong : capacity ≤ bytes.length
    · refine ⟨{ d₀ with content := d₀.content ++ bytes }, ?_, room₀, ?_, List.prefix_append _ _⟩
      · simp [hlong, writeThrough, room₀]
      · simp [hpending hlong]
    · refine ⟨{ d₀ with pending := d₀.pending ++ bytes }, ?_, room₀, ?_, List.prefix_rfl⟩
      · simp [hlong]
      · simp
  -- A long piece passes by the buffer, and then nothing may wait in it.
  unfold write
  by_cases hover : capacity < d.pending.length + bytes.length
  · obtain ⟨d', hwrite, room', hbytes, hcontent⟩ := hthrough d.emptied rfl fun _ => rfl
    refine ⟨d', ?_, room', ?_, (List.prefix_append _ _).trans hcontent⟩
    · simpa [hover, spill_eq room] using hwrite
    · simpa [emptied] using hbytes
  · have hpending : capacity ≤ bytes.length → d.pending = [] := by
      intro hlong
      exact List.length_eq_zero_iff.mp (by omega)
    simpa [hover] using hthrough d room hpending

end Device.Buffered

namespace LineSink

open Device (Buffered)

def Job.bytes : Job → List UInt8
  | write pieces => pieces.flatten
  | flush _ => []

/-- What of a sink concerns its file: the device, the jobs that are not over, and the flushes. -/
structure Outflow where
  device : Buffered
  jobs : List Job
  answers : List (Nat × Bool)

def outflow (s : LineSink Buffered) : Outflow :=
  ⟨s.scene.device, s.worker.pending, s.scene.answers⟩

namespace Outflow

/-- Every byte handed in, whether it is in the file, in the buffer or in a job. -/
def bytes (f : Outflow) : List UInt8 :=
  f.device.content ++ f.device.pending ++ f.jobs.flatMap Job.bytes

def tickets (f : Outflow) : List Nat :=
  f.answers.map Prod.fst ++ f.jobs.filterMap Job.ticket?

/-- What a step of the worker does to a file with room, or the last holder of its writer. -/
inductive Flows (f : Outflow) : Outflow → Prop
  | rest : Flows f f
  | write (device : Buffered) (pieces rest : List (List UInt8)) (jobs : List Job)
      (queue : f.jobs = .write pieces :: jobs) (room : device.isFull = false)
      (bytes : device.content ++ device.pending ++ rest.flatten =
        f.device.content ++ f.device.pending ++ pieces.flatten)
      (grows : f.device.content <+: device.content) :
      Flows f ⟨device, .write rest :: jobs, f.answers⟩
  | finish (jobs : List Job) (queue : f.jobs = .write [] :: jobs) : Flows f { f with jobs }
  | flush (ticket : Nat) (jobs : List Job) (queue : f.jobs = .flush ticket :: jobs) :
      Flows f ⟨f.device.emptied, jobs, f.answers ++ [(ticket, true)]⟩
  | letGo (empty : f.jobs = []) : Flows f { f with device := f.device.emptied }

/-- The target is in the file, or it is in front of the flush with the ticket. -/
def Covers (target : List UInt8) (ticket : Nat) (f : Outflow) : Prop :=
  target <+: f.device.content ∨
    ∃ ahead behind, f.jobs = ahead ++ .flush ticket :: behind ∧
      target <+: f.device.content ++ f.device.pending ++ ahead.flatMap Job.bytes

section

variable {f f' : Outflow}

theorem Flows.room (h : Flows f f') (room : f.device.isFull = false) :
    f'.device.isFull = false := by
  cases h with
  | rest => exact room
  | write device pieces rest jobs queue room' bytes grows => exact room'
  | finish jobs queue => exact room
  | flush ticket jobs queue => rfl
  | letGo empty => rfl

theorem Flows.bytes (h : Flows f f') : f'.bytes = f.bytes := by
  cases h with
  | rest => rfl
  | write device pieces rest jobs queue room bytes grows =>
      simp only [Outflow.bytes, queue, List.flatMap_cons, Job.bytes]
      rw [← List.append_assoc, bytes, List.append_assoc]
  | finish jobs queue => simp [Outflow.bytes, queue, Job.bytes]
  | flush ticket jobs queue => simp [Outflow.bytes, queue, Job.bytes, Buffered.emptied]
  | letGo empty => simp [Outflow.bytes, empty, Buffered.emptied]

theorem Flows.tickets (h : Flows f f') : f'.tickets = f.tickets := by
  cases h with
  | rest => rfl
  | write device pieces rest jobs queue room bytes grows =>
      simp [Outflow.tickets, queue, List.filterMap_cons, Job.ticket?]
  | finish jobs queue => simp [Outflow.tickets, queue, List.filterMap_cons, Job.ticket?]
  | flush ticket jobs queue => simp [Outflow.tickets, queue, Job.ticket?]
  | letGo empty => rfl

private theorem Flows.content (h : Flows f f') : f.device.content <+: f'.device.content := by
  cases h with
  | rest => exact List.prefix_rfl
  | write device pieces rest jobs queue room bytes grows => exact grows
  | finish jobs queue => exact List.prefix_rfl
  | flush ticket jobs queue => exact List.prefix_append _ _
  | letGo empty => exact List.prefix_append _ _

/-- A flush stays behind what was in front of it until it is made, and then this is in the file. -/
theorem Flows.covers (h : Flows f f') {target : List UInt8} {ticket : Nat}
    (hcovers : f.Covers target ticket) : f'.Covers target ticket := by
  rcases hcovers with hfile | ⟨ahead, behind, hjobs, htarget⟩
  · exact .inl (hfile.trans h.content)
  -- The job at hand is the flush itself when nothing is ahead of it, and one of those ahead otherwise.
  cases h with
  | rest => exact .inr ⟨ahead, behind, hjobs, htarget⟩
  | write device pieces rest jobs queue room bytes grows =>
      rw [queue] at hjobs
      cases ahead with
      | nil => cases hjobs
      | cons job ahead =>
          obtain ⟨rfl, rfl⟩ := List.cons.inj hjobs
          refine .inr ⟨.write rest :: ahead, behind, rfl, ?_⟩
          rwa [List.flatMap_cons, ← List.append_assoc, Job.bytes, ← bytes, List.append_assoc]
            at htarget
  | finish jobs queue =>
      rw [queue] at hjobs
      cases ahead with
      | nil => cases hjobs
      | cons job ahead =>
          obtain ⟨rfl, rfl⟩ := List.cons.inj hjobs
          exact .inr ⟨ahead, behind, rfl, htarget⟩
  | flush other jobs queue =>
      rw [queue] at hjobs
      cases ahead with
      | nil => exact .inl (by simpa [Buffered.emptied] using htarget)
      | cons job ahead =>
          obtain ⟨rfl, rfl⟩ := List.cons.inj hjobs
          refine .inr ⟨ahead, behind, rfl, ?_⟩
          simpa [Buffered.emptied, Job.bytes] using htarget
  | letGo empty => simp [empty] at hjobs

def hand (job : Option Job) (f : Outflow) : Outflow :=
  { f with jobs := f.jobs ++ job.toList }

theorem bytes_hand (job : Option Job) (f : Outflow) :
    (f.hand job).bytes = f.bytes ++ job.toList.flatMap Job.bytes := by
  simp [bytes, hand]

theorem tickets_hand (job : Option Job) (f : Outflow) :
    (f.hand job).tickets = f.tickets ++ job.toList.filterMap Job.ticket? := by
  simp [tickets, hand]

theorem Covers.hand {target : List UInt8} {ticket : Nat} (h : f.Covers target ticket)
    (job : Option Job) : (f.hand job).Covers target ticket := by
  rcases h with hfile | ⟨ahead, behind, hjobs, htarget⟩
  · exact .inl hfile
  · exact .inr ⟨ahead, behind ++ job.toList, by simp [Outflow.hand, hjobs], htarget⟩

theorem covers_hand_flush {target : List UInt8} (htarget : target <+: f.bytes) (ticket : Nat) :
    (f.hand (some (.flush ticket))).Covers target ticket :=
  .inr ⟨f.jobs, [], rfl, htarget⟩

theorem Covers.in_file {target : List UInt8} {ticket : Nat} (h : f.Covers target ticket)
    (hnodup : f.tickets.Nodup) (hmade : ticket ∈ f.answers.map Prod.fst) :
    target <+: f.device.content := by
  rcases h with hfile | ⟨ahead, behind, hjobs, -⟩
  · exact hfile
  · have hwaits : ticket ∈ f.jobs.filterMap Job.ticket? :=
      List.mem_filterMap.mpr ⟨.flush ticket, by simp [hjobs], rfl⟩
    exact absurd rfl (List.nodup_append.mp hnodup |>.2.2 ticket hmade ticket hwaits)

end

end Outflow

/-- What a call of a device with room comes to. A line that is not over has less left to do. -/
inductive Acted (scene : Scene Buffered) : Job → Worker.Progress Job (Scene Buffered) → Prop
  | finish : Acted scene (.write []) (.finished scene)
  | send (device : Buffered) (pieces rest : List (List UInt8)) (room : device.isFull = false)
      (bytes : device.content ++ device.pending ++ rest.flatten =
        scene.device.content ++ scene.device.pending ++ pieces.flatten)
      (grows : scene.device.content <+: device.content)
      (less : callsOf (.write rest) < callsOf (.write pieces)) :
      Acted scene (.write pieces) (.left (.write rest) { scene with device })
  | flush (ticket : Nat) :
      Acted scene (.flush ticket) (.finished { scene with
        device := scene.device.emptied
        answers := scene.answers ++ [(ticket, true)] })

private theorem acted_of_room {scene : Scene Buffered} (room : scene.device.isFull = false)
    (job : Job) : Acted scene job (act job scene) := by
  have hready : Device.ready scene.device = true := rfl
  match job with
  | .flush ticket =>
      have hflush : Device.flush scene.device = (true, scene.device.emptied) :=
        Buffered.spill_eq room
      simp only [act, hready, hflush, if_true]
      exact .flush ticket
  | .write [] => exact .finish
  | .write ([] :: rest) =>
      exact .send scene.device _ rest room rfl List.prefix_rfl (by simp [callsOf, foldl_add])
  | .write ((byte :: piece) :: rest) =>
      obtain ⟨device, hwrite, room', hbytes, hgrows⟩ := Buffered.write_eq room (byte :: piece)
      have hreply : Device.write (byte :: piece) scene.device =
          (.took (byte :: piece).length, device) := hwrite
      simp only [act, hready, hreply, if_true, List.length_cons, List.drop_succ_cons,
        List.drop_length]
      refine .send device ((byte :: piece) :: rest) ([] :: rest) room' ?_ hgrows ?_
      · rw [hbytes, List.flatten_cons, List.flatten_cons, List.append_assoc]
        rfl
      · simp only [callsOf, foldl_add, List.map_cons, List.sum_cons, List.length_cons,
          List.length_nil]
        omega

theorem Handed.outflow {job : Option Job} {s s' : LineSink Buffered} (h : Handed job s s') :
    s'.outflow = s.outflow.hand job := by
  have hpending : s'.worker.pending = s.worker.pending ++ job.toList := by
    rw [h.worker]
    cases job with
    | none => simp
    | some job => exact Worker.pending_submit job s.worker
  rw [LineSink.outflow, h.device, h.answers, hpending]
  rfl

theorem flows_of_stepped {w w' : Worker Job} {scene scene' : Scene Buffered}
    (h : Worker.Stepped act w scene w' scene') (room : scene.device.isFull = false) :
    Outflow.Flows ⟨scene.device, w.pending, scene.answers⟩
      ⟨scene'.device, w'.pending, scene'.answers⟩ := by
  cases h with
  | take job rest free popped =>
      have hsame : (⟨rest, .busy job⟩ : Worker Job).pending = w.pending := by
        rw [Worker.pending_of_free (w := w) (by simp [free]),
          Worker.jobs_of_pop?_run popped (.busy job)]
        exact Worker.pending_of_busy rfl
      rw [hsame]
      exact .rest
  | stop rest free popped =>
      have hsame : (⟨rest, .stopped⟩ : Worker Job).pending = w.pending := by
        rw [Worker.pending_of_free (w := w) (by simp [free]),
          Worker.jobs_of_pop?_stop popped .stopped]
        exact Worker.pending_of_free (by simp)
      rw [hsame]
      exact .rest
  | goOn job job' after busy left =>
      have hpending := Worker.pending_of_busy busy
      have hpending' : ({ w with activity := .busy job' } : Worker Job).pending =
          job' :: w.jobs := Worker.pending_of_busy rfl
      rw [hpending']
      have hacted := acted_of_room room job
      rw [left] at hacted
      cases hacted with
      | send device pieces rest room' bytes grows less =>
          exact .write device pieces rest w.jobs hpending room' bytes grows
  | finish job after busy finished =>
      have hpending := Worker.pending_of_busy busy
      have hpending' : ({ w with activity := .idle } : Worker Job).pending = w.jobs :=
        Worker.pending_of_free (by simp)
      rw [hpending']
      have hacted := acted_of_room room job
      rw [finished] at hacted
      cases hacted with
      | finish => exact .finish w.jobs hpending
      | flush ticket => exact .flush ticket w.jobs hpending
  | crash job after busy panicked =>
      have hacted := acted_of_room room job
      rw [panicked] at hacted
      cases hacted

theorem flows_of_work? {s s' : LineSink Buffered} (h : s.work? = some s')
    (room : s.scene.device.isFull = false) : s.outflow.Flows s'.outflow :=
  flows_of_stepped (stepped_of_work? h).1 room

theorem steps_of_stepped {w w' : Worker Job} {scene scene' : Scene Buffered}
    (h : Worker.Stepped act w scene w' scene') (room : scene.device.isFull = false) :
    w'.steps callsOf < w.steps callsOf := by
  cases h with
  | take job rest free popped =>
      simp [Worker.steps, foldl_add, free, Backlog.items_pop? popped, Worker.Activity.steps,
        Worker.Task.steps]
  | stop rest free popped =>
      simp [Worker.steps, foldl_add, free, Backlog.items_pop? popped, Worker.Activity.steps,
        Worker.Task.steps]
  | goOn job job' after busy left =>
      have hacted := acted_of_room room job
      rw [left] at hacted
      cases hacted with
      | send device pieces rest room' bytes grows less =>
          simpa [Worker.steps, foldl_add, busy, Worker.Activity.steps] using less
  | finish job after busy finished =>
      cases job <;> simp [Worker.steps, foldl_add, busy, Worker.Activity.steps, callsOf]
  | crash job after busy panicked =>
      cases job <;> simp [Worker.steps, foldl_add, busy, Worker.Activity.steps, callsOf]

theorem upright_of_stepped {w w' : Worker Job} {scene scene' : Scene Buffered}
    (h : Worker.Stepped act w scene w' scene') (room : scene.device.isFull = false) :
    w'.activity ≠ .crashed := by
  cases h with
  | crash job after busy panicked =>
      have hacted := acted_of_room room job
      rw [panicked] at hacted
      cases hacted
  | _ => simp

theorem stopped_or_steps {w : Worker Job} {scene : Scene Buffered}
    (room : scene.device.isFull = false) (hretiring : w.Retiring)
    (hupright : w.activity ≠ .crashed) :
    w.activity = .stopped ∨ ∃ w' scene', w.step? act scene = some (w', scene') := by
  cases hretiring with
  | stopped asleep items => exact .inl asleep
  | serving awake items =>
      refine .inr ?_
      unfold Worker.step?
      cases hactivity : w.activity with
      | stopped => exact absurd hactivity awake
      | crashed => exact absurd hactivity hupright
      | busy job =>
          have hacted := acted_of_room room job
          dsimp only
          generalize act job scene = progress at hacted
          cases hacted with
          | finish => exact ⟨_, _, rfl⟩
          | send => exact ⟨_, _, rfl⟩
          | flush => exact ⟨_, _, rfl⟩
      | idle =>
          cases hpop : w.backlog.pop? with
          | none =>
              have hempty := Backlog.pop?_eq_none_iff.mp hpop
              simp [items] at hempty
          | some popped =>
              obtain ⟨job | _, rest⟩ := popped
              · exact ⟨⟨rest, .busy job⟩, scene, by simp [Worker.take?, hpop]⟩
              · exact ⟨⟨rest, .stopped⟩, scene, by simp [Worker.take?, hpop]⟩

end LineSink

end LogShipping
