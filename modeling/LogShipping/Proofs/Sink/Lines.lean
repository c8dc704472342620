import LogShipping.Proofs.Sink.Steps
import LogShipping.Sink.Service
import Mathlib.Data.List.Forall2

namespace LogShipping.LineSink

open Device (Recorded)

variable {μ : Type}

def Progressed (job : Job) (before : Scene (Recorded μ)) (now : Job) (scene : Scene (Recorded μ)) :
    Prop :=
  match job with
  | .write pieces =>
    ∃ sent rest told, now = .write rest ∧ sent ++ rest.flatten = pieces.flatten ∧
      scene.device.taken = before.device.taken ++ sent ∧
      scene.journal = before.journal ++ told ∧ .writeFailed ∉ told ∧
      scene.answers = before.answers
  | .flush ticket =>
    now = .flush ticket ∧ scene.device.taken = before.device.taken ∧
      scene.device.flushes = before.device.flushes ∧ scene.answers = before.answers

def Ended (shift : Worker.Shift Job (Scene (Recorded μ))) : Prop :=
  match shift.job with
  | .write pieces =>
    ∃ sent rest told, sent ++ rest = pieces.flatten ∧
      shift.after.device.taken = shift.before.device.taken ++ sent ∧
      shift.after.journal = shift.before.journal ++ told ∧ (.writeFailed ∈ told ↔ rest ≠ []) ∧
      shift.after.answers = shift.before.answers
  | .flush ticket =>
    shift.after.device.taken = shift.before.device.taken ∧
      ∃ ok, shift.after.device.flushes = shift.before.device.flushes ++ [ok] ∧
        shift.after.answers = shift.before.answers ++ [(ticket, ok)]

private theorem taken_write [Device μ] (bytes : List UInt8) (d : Recorded μ) :
    (Device.write bytes d).2.taken = d.taken ++
      match (Device.write bytes d).1 with
      | .took count => bytes.take count
      | .failed _ => [] := rfl

private theorem taken_flush [Device μ] (d : Recorded μ) : (Device.flush d).2.taken = d.taken := rfl

theorem flushes_flush [Device μ] (d : Recorded μ) :
    (Device.flush d).2.flushes = d.flushes ++ [(Device.flush d).1] := rfl

/-- One call of the device, seen from the line that is written. -/
inductive WriteStep (pieces : List (List UInt8)) (scene : Scene (Recorded μ)) :
    Worker.Progress Job (Scene (Recorded μ)) → Prop
  | wait : WriteStep pieces scene .waiting
  | finish (ended : pieces = []) : WriteStep pieces scene (.finished scene)
  | send (device : Recorded μ) (sent : List UInt8) (rest : List (List UInt8))
      (split : sent ++ rest.flatten = pieces.flatten)
      (taken : device.taken = scene.device.taken ++ sent) :
      WriteStep pieces scene (.left (.write rest) { scene with device })
  | fail (device : Recorded μ) (left : pieces.flatten ≠ [])
      (taken : device.taken = scene.device.taken) :
      WriteStep pieces scene
        (.finished { scene with device, journal := scene.journal ++ [.writeFailed] })

theorem writeStep_act [Device μ] (pieces : List (List UInt8)) (scene : Scene (Recorded μ)) :
    WriteStep pieces scene (act (.write pieces) scene) := by
  match pieces with
  | [] => exact .finish rfl
  | [] :: rest => exact .send scene.device [] rest (by simp) (by simp)
  | (byte :: piece) :: rest =>
      by_cases hready : Device.ready scene.device
      · have htaken := taken_write (byte :: piece) scene.device
        cases hreply : (Device.write (byte :: piece) scene.device).1 with
        | took count =>
            rw [hreply] at htaken
            cases count with
            | zero =>
                simp only [act, hready, hreply, if_true]
                exact .fail _ (by simp) (by simpa using htaken)
            | succ count =>
                simp only [act, hready, hreply, if_true]
                refine .send _ ((byte :: piece).take (count + 1)) _ ?_ htaken
                rw [List.flatten_cons, List.flatten_cons, ← List.append_assoc,
                  List.take_append_drop]
        | failed kind =>
            rw [hreply] at htaken
            by_cases hkind : kind = .interrupted
            · subst hkind
              simp only [act, hready, hreply, if_true]
              exact .send _ [] _ (by simp) htaken
            · have hact : act (.write ((byte :: piece) :: rest)) scene =
                  .finished { scene with
                    device := (Device.write (byte :: piece) scene.device).2
                    journal := scene.journal ++ [.writeFailed] } := by
                cases kind <;> first | exact absurd rfl hkind | simp [act, hready, hreply]
              rw [hact]
              exact .fail _ (by simp) (by simpa using htaken)
      · simp only [act, hready, Bool.false_eq_true, if_false]
        exact .wait

theorem act_flush_cases [Device μ] (ticket : Nat) (scene : Scene (Recorded μ)) :
    act (.flush ticket) scene = .waiting ∨
      ∃ after ok, act (.flush ticket) scene = .finished after ∧
        after.device.taken = scene.device.taken ∧
        after.device.flushes = scene.device.flushes ++ [ok] ∧
        after.answers = scene.answers ++ [(ticket, ok)] := by
  by_cases hready : Device.ready scene.device
  · exact .inr ⟨_, (Device.flush scene.device).1, if_pos hready, taken_flush scene.device,
      flushes_flush scene.device, rfl⟩
  · exact .inl (by simp [act, hready])

theorem follows_act [Device μ] :
    Worker.Follows (act (μ := Recorded μ)) Progressed Ended where
  start job scene := by
    cases job with
    | write pieces => exact ⟨[], pieces, [], rfl, by simp, by simp, by simp, by simp, rfl⟩
    | flush ticket => exact ⟨rfl, rfl, rfl, rfl⟩
  goOn := by
    intro job before now scene now' scene' hhand hleft
    cases job with
    | write pieces =>
        obtain ⟨sent, rest, told, rfl, hsplit, htaken, hjournal, hquiet, hanswers⟩ := hhand
        have hstep := writeStep_act rest scene
        rw [hleft] at hstep
        cases hstep with
        | send device more rest' hmore hdevice =>
            refine ⟨sent ++ more, rest', told, rfl, ?_, ?_, hjournal, hquiet, hanswers⟩
            · rw [List.append_assoc, hmore, hsplit]
            · rw [hdevice, htaken, List.append_assoc]
    | flush ticket =>
        obtain ⟨rfl, -⟩ := hhand
        rcases act_flush_cases ticket scene with hact | ⟨after, ok, hact, -⟩
        · rw [hact] at hleft
          cases hleft
        · rw [hact] at hleft
          cases hleft
  finish := by
    intro job before now scene scene' hhand hfinished
    cases job with
    | write pieces =>
        obtain ⟨sent, rest, told, rfl, hsplit, htaken, hjournal, hquiet, hanswers⟩ := hhand
        have hstep := writeStep_act rest scene
        rw [hfinished] at hstep
        cases hstep with
        | finish ended =>
            exact ⟨sent, [], told, by simpa [ended] using hsplit, htaken, hjournal, by simpa,
              hanswers⟩
        | fail device left hdevice =>
            refine ⟨sent, rest.flatten, told ++ [.writeFailed], hsplit, hdevice.trans htaken,
              ?_, ?_, hanswers⟩
            · rw [hjournal, List.append_assoc]
            · simp [left]
    | flush ticket =>
        obtain ⟨rfl, hbefore, hflushes, hanswers⟩ := hhand
        rcases act_flush_cases ticket scene with
          hact | ⟨after, ok, hact, htaken, hflushed, hanswer⟩
        · rw [hact] at hfinished
          cases hfinished
        · rw [hact] at hfinished
          cases hfinished
          refine ⟨htaken.trans hbefore, ok, ?_, ?_⟩
          · rw [hflushed, hflushes]
          · rw [hanswer, hanswers]
  calm := by
    intro job scene scene' hpanic
    cases job with
    | write pieces =>
        have hstep := writeStep_act pieces scene
        rw [hpanic] at hstep
        cases hstep
    | flush ticket =>
        rcases act_flush_cases ticket scene with hact | ⟨after, ok, hact, -⟩
        · rw [hact] at hpanic
          cases hpanic
        · rw [hact] at hpanic
          cases hpanic

theorem Progressed.untouched {job now : Job} {before scene scene' : Scene (Recorded μ)}
    (h : Progressed job before now scene) (htaken : scene'.device.taken = scene.device.taken)
    (hflushes : scene'.device.flushes = scene.device.flushes)
    (hjournal : ∃ told, scene'.journal = scene.journal ++ told ∧ .writeFailed ∉ told)
    (hanswers : scene'.answers = scene.answers) : Progressed job before now scene' := by
  cases job with
  | write pieces =>
      obtain ⟨sent, rest, told, rfl, hsplit, hsent, htold, hquiet, hsame⟩ := h
      obtain ⟨more, hmore, hquiet'⟩ := hjournal
      refine ⟨sent, rest, told ++ more, rfl, hsplit, htaken.trans hsent, ?_, ?_,
        hanswers.trans hsame⟩
      · rw [hmore, htold, List.append_assoc]
      · simp [hquiet, hquiet']
  | flush ticket =>
      exact ⟨h.1, htaken.trans h.2.1, hflushes.trans h.2.2.1, hanswers.trans h.2.2.2⟩

theorem Ended.grows {shift : Worker.Shift Job (Scene (Recorded μ))} (h : Ended shift) :
    shift.before.device.taken <+: shift.after.device.taken := by
  obtain ⟨job, before, after⟩ := shift
  cases job with
  | write pieces =>
      obtain ⟨sent, rest, told, -, htaken, -, -⟩ := h
      exact ⟨sent, htaken.symm⟩
  | flush ticket => exact ⟨[], by simpa using h.1.symm⟩

theorem Ended.answers_grow {shift : Worker.Shift Job (Scene (Recorded μ))} (h : Ended shift) :
    shift.before.answers <+: shift.after.answers := by
  obtain ⟨job, before, after⟩ := shift
  cases job with
  | write pieces =>
      obtain ⟨-, -, -, -, -, -, -, hanswers⟩ := h
      exact ⟨[], by simpa using hanswers.symm⟩
  | flush ticket =>
      obtain ⟨-, ok, -, hanswers⟩ := h
      exact ⟨[(ticket, ok)], hanswers.symm⟩

theorem Ended.flushed {shift : Worker.Shift Job (Scene (Recorded μ))} (h : Ended shift)
    {ticket : Nat} {ok : Bool} (hanswer : (ticket, ok) ∈ shift.gain Scene.answers) :
    shift.job = .flush ticket ∧ shift.gain (·.device.flushes) = [ok] := by
  obtain ⟨job, before, after⟩ := shift
  cases job with
  | write pieces =>
      obtain ⟨-, -, -, -, -, -, -, hanswers⟩ := h
      have hsame : after.answers = before.answers := hanswers
      simp [Worker.Shift.gain, hsame] at hanswer
  | flush ticket' =>
      obtain ⟨-, ok', hflushes, hanswers⟩ := h
      have hgain : after.answers.drop before.answers.length = [(ticket', ok')] := by
        rw [show after.answers = _ from hanswers, List.drop_left]
      have hflushed : after.device.flushes.drop before.device.flushes.length = [ok'] := by
        rw [show after.device.flushes = _ from hflushes, List.drop_left]
      have hmem : (ticket, ok) ∈ after.answers.drop before.answers.length := hanswer
      rw [hgain, List.mem_singleton] at hmem
      cases hmem
      exact ⟨rfl, hflushed⟩

theorem Ended.bytesOf_eq_nil {shift : Worker.Shift Job (Scene (Recorded μ))} (h : Ended shift)
    (hflush : shift.job.isWrite = false) : bytesOf shift = [] := by
  obtain ⟨job, before, after⟩ := shift
  cases job with
  | write pieces => cases hflush
  | flush ticket =>
      have htaken : after.device.taken = before.device.taken := h.1
      simp [bytesOf, Worker.Shift.gain, htaken]

def lineOf (entry : Record × Layout) : Job :=
  .write (linePieces (entry.2 entry.1))

/-- The device has a beginning of the record's line, and the whole of it unless a failure was told
while it was written. -/
structure Shows (line : Worker.Shift Job (Scene (Recorded μ))) (entry : Record × Layout) :
    Prop where
  job : line.job = lineOf entry
  begins : bytesOf line <+: Text.utf8 (entry.2 entry.1 ++ "\n")
  whole : bytesOf line = Text.utf8 (entry.2 entry.1 ++ "\n") ↔
    .writeFailed ∉ line.gain Scene.journal

theorem Ended.shows {line : Worker.Shift Job (Scene (Recorded μ))} (h : Ended line)
    {entry : Record × Layout} (hjob : line.job = lineOf entry) : Shows line entry := by
  obtain ⟨job, before, after⟩ := line
  obtain rfl : job = lineOf entry := hjob
  obtain ⟨sent, rest, told, hsplit, htaken, hjournal, hfailed, -⟩ := h
  have hbytes : bytesOf ⟨lineOf entry, before, after⟩ = sent := by
    simpa [bytesOf, Worker.Shift.gain] using congrArg (List.drop before.device.taken.length) htaken
  have htold : (⟨lineOf entry, before, after⟩ : Worker.Shift _ _).gain Scene.journal = told := by
    simpa [Worker.Shift.gain] using congrArg (List.drop before.journal.length) hjournal
  have hline : sent ++ rest = Text.utf8 (entry.2 entry.1 ++ "\n") := by
    simpa [linePieces, Text.utf8_append] using hsplit
  refine ⟨rfl, ?_, ?_⟩
  · rw [hbytes]
    exact ⟨rest, hline⟩
  · rw [hbytes, htold, hfailed, not_not, ← hline]
    constructor
    · intro hwhole
      simpa using hwhole.symm
    · rintro rfl
      simp

end LogShipping.LineSink
