import LogShipping.Proofs.Lists
import LogShipping.Proofs.Sink.Output

namespace LogShipping.LineSink

open Device (Recorded)

variable {μ : Type}

namespace Service

/-- The flush with the ticket has been handed in behind the lines at `places`. -/
def Guards (places : List Nat) (ticket : Nat) (s : Service μ) : Prop :=
  ∃ ahead behind, s.history.row s.sink.worker = ahead ++ .flush ticket :: behind ∧
    ∀ place ∈ places, place < (ahead.filter Job.isWrite).length

/-- The line of the record, which is the one at `place`, has been attempted, and the device was
flushed successfully later. -/
def Attempted (place : Nat) (r : Record) (s : Service μ) : Prop :=
  ∃ earlier flush later line layout,
    s.history.shifts = earlier ++ flush :: later ∧ flush.gain (·.device.flushes) = [true] ∧
      (earlier.filter (·.job.isWrite))[place]? = some line ∧
      s.accepted[place]? = some (r, layout) ∧ Shows line (r, layout)

structure Grown (s s' : Service μ) : Prop where
  row : s.history.row s.sink.worker <+: s'.history.row s'.sink.worker
  accepted : s.accepted <+: s'.accepted

theorem Guards.grown {s s' : Service μ} {places : List Nat} {ticket : Nat}
    (h : Guards places ticket s) (hgrown : Grown s s') : Guards places ticket s' := by
  obtain ⟨ahead, behind, hrow, hplaces⟩ := h
  obtain ⟨more, hmore⟩ := hgrown.row
  refine ⟨ahead, behind ++ more, ?_, hplaces⟩
  rw [← hmore, hrow, List.append_assoc]
  rfl

private theorem grown_handed {s s' : Service μ} {job : Option Job}
    (handed : Handed job s.sink s'.sink) (hhistory : s'.history = s.history)
    (haccepted : s.accepted <+: s'.accepted) : Grown s s' := by
  refine ⟨?_, haccepted⟩
  rw [hhistory, handed.row]
  exact List.prefix_append _ _

theorem grown_call (i now : Nat) (move : Move) (s : Service μ) : Grown s (s.call i now move) := by
  obtain ⟨outcomes, job, hserved⟩ := served_call i now move s
  exact grown_handed hserved.handed rfl (List.prefix_append _ _)

theorem grown_onDevice (change : μ → μ) (s : Service μ) : Grown s (s.onDevice change) :=
  ⟨List.prefix_rfl, List.prefix_rfl⟩

theorem grown_work [Device μ] {s : Service μ} (h : s.Kept) : Grown s s.work := by
  unfold Service.work
  cases hwork : s.sink.work? with
  | none => exact ⟨List.prefix_rfl, List.prefix_rfl⟩
  | some sink =>
      obtain ⟨-, hnoted⟩ := h.tells.step follows_act (stepped_of_work? hwork).1
      refine ⟨?_, List.prefix_rfl⟩
      have hrow : (s.history.next sink.worker sink.scene).row sink.worker =
          s.history.row s.sink.worker := hnoted.row_eq
      exact hrow ▸ List.prefix_rfl

theorem accepted_handIn {now place : Nat} {r : Record} {s : Service μ}
    (h : (s.handIn now r).2 = some (.ok place)) :
    place = s.accepted.length ∧
      (s.handIn now r).1.accepted = s.accepted ++ [(r, s.sink.layout)] := by
  simp only [handIn, Service.call] at h ⊢
  cases hpoint : s.threads.points[0]? with
  | none => simp [hpoint, Threads.step] at h
  | some point =>
      cases point with
      | idle =>
          by_cases hclosed : s.threads.shared.sink.closed <;>
            simp [hpoint, moveFor, Threads.step, callStep, hclosed, Shared.finish, Outcome.placed?,
              Except.map] at h
      | cleared r' =>
          by_cases hr : r' = r
          · subst hr
            cases hsubmit : s.threads.shared.sink.submit? r' with
            | none =>
                simp [hpoint, moveFor, Threads.step, callStep, hsubmit, Shared.finish,
                  Outcome.placed?, Except.map] at h
            | some sink =>
                simp only [hpoint, moveFor, Threads.step, callStep, hsubmit, Shared.finish, if_true,
                  List.drop_left] at h ⊢
                exact ⟨by simpa [Outcome.placed?, Except.map] using h.symm, rfl⟩
          · simp [hpoint, moveFor, Threads.step, callStep, hr] at h
      | shut wait => simp [hpoint, moveFor, Threads.step, callStep] at h
      | waiting ticket closes => simp [hpoint, moveFor, Threads.step, callStep] at h

theorem Kept.askFlush {s : Service μ} (h : s.Kept) (hdropped : s.dropped = false) (now : Nat)
    (wait : Wait) : (s.askFlush now wait).1.Kept := by
  have hnone : s.accepted = s.accepted ++ [].map fun r => (r, s.sink.layout) :=
    (List.append_nil _).symm
  have htold := (List.append_nil s.threads.shared.accepted).symm
  rcases handed_askFlush now wait.tick wait.timeout s.sink with ⟨-, handed⟩ | ⟨-, handed⟩
  · exact h.handed handed rfl hnone rfl htold hdropped hdropped
  · exact h.handed handed rfl hnone rfl htold hdropped hdropped

theorem grown_askFlush (now : Nat) (wait : Wait) (s : Service μ) :
    Grown s (s.askFlush now wait).1 := by
  rcases handed_askFlush now wait.tick wait.timeout s.sink with ⟨-, handed⟩ | ⟨-, handed⟩
  · exact grown_handed handed rfl List.prefix_rfl
  · exact grown_handed handed rfl List.prefix_rfl

theorem guards_askFlush {s : Service μ} (h : s.Kept) {now ticket : Nat} {wait : Wait}
    (hticket : (s.askFlush now wait).2 = some ticket) {places : List Nat}
    (hplaces : ∀ place ∈ places, place < s.accepted.length) :
    Guards places ticket (s.askFlush now wait).1 := by
  rcases handed_askFlush now wait.tick wait.timeout s.sink with ⟨hnone, -⟩ | ⟨hsome, handed⟩
  · cases hnone.symm.trans hticket
  · obtain rfl : s.sink.tickets = ticket := Option.some.inj (hsome.symm.trans hticket)
    refine ⟨s.history.row s.sink.worker, [], handed.row s.history, ?_⟩
    rw [h.row, List.length_map]
    exact hplaces

private theorem Kept.answers_eq {s : Service μ} (h : s.Kept) :
    s.sink.scene.answers = s.history.shifts.flatMap (Worker.Shift.gain Scene.answers) := by
  have hsums := h.answers
  unfold Worker.History.Sums Worker.History.pause at hsums
  cases hbegun : s.history.begun with
  | none => simpa [hbegun] using hsums
  | some entry =>
      obtain ⟨job, before⟩ := entry
      obtain ⟨now, -, hhand⟩ := h.tells.hand job before hbegun
      simp only [hbegun, Option.map_some, Option.getD_some] at hsums
      rw [← hsums]
      cases job with
      | write pieces =>
          obtain ⟨-, -, -, -, -, -, -, -, hanswers⟩ := hhand
          exact hanswers
      | flush ticket => exact hhand.2.2.2

theorem Kept.answered {s : Service μ} (h : s.Kept) {ticket : Nat}
    (hanswer : s.sink.answer? ticket = some true) :
    ∃ earlier flush later, s.history.shifts = earlier ++ flush :: later ∧
      flush.job = .flush ticket ∧ flush.gain (·.device.flushes) = [true] := by
  have hmem : (ticket, true) ∈ s.sink.scene.answers := by
    obtain ⟨before, after, hsplit, -⟩ := List.lookup_eq_some_iff.mp hanswer
    rw [hsplit]
    simp
  rw [h.answers_eq] at hmem
  obtain ⟨flush, hflush, hgain⟩ := List.mem_flatMap.mp hmem
  obtain ⟨earlier, later, hsplit⟩ := List.append_of_mem hflush
  obtain ⟨hjob, hflushed⟩ := (h.tells.done flush hflush).flushed hgain
  exact ⟨earlier, flush, later, hsplit, hjob, hflushed⟩

private theorem Kept.line_shown {s : Service μ} (h : s.Kept) {earlier later : List _}
    (hsplit : s.history.shifts = earlier ++ later) {place : Nat}
    (hplace : place < (earlier.filter (·.job.isWrite)).length) {entry : Record × Layout}
    (hentry : s.accepted[place]? = some entry) :
    Shows (earlier.filter (·.job.isWrite))[place] entry := by
  obtain ⟨done, late, haccepted, hshown, -⟩ := h.shown_of_split hsplit
  have hdone : place < done.length := hshown.length_eq ▸ hplace
  rw [haccepted, List.getElem?_append_left hdone, List.getElem?_eq_getElem hdone] at hentry
  exact Option.some.inj hentry ▸ hshown.get hplace hdone

theorem Guards.lt_of_split {s : Service μ} {places : List Nat} {ticket : Nat}
    (hguards : Guards places ticket s) (h : s.Kept)
    {earlier later : List (Worker.Shift Job (Scene (Recorded μ)))}
    {flush : Worker.Shift Job (Scene (Recorded μ))}
    (hsplit : s.history.shifts = earlier ++ flush :: later) (hjob : flush.job = .flush ticket)
    {place : Nat} (hplace : place ∈ places) : place < (earlier.filter (·.job.isWrite)).length := by
  obtain ⟨ahead, behind, hrow, hplaces⟩ := hguards
  have hmark : Job.ticket? (.flush ticket) = some ticket := rfl
  -- No ticket is given twice, so the flush that was made is the one behind these lines.
  have hdone : ahead = earlier.map Worker.Shift.job := by
    have hnodup : ((s.history.row s.sink.worker).filterMap Job.ticket?).Nodup := by
      rw [h.tickets]
      exact List.nodup_range
    have hrow' : s.history.row s.sink.worker = earlier.map Worker.Shift.job ++ .flush ticket ::
        (later.map Worker.Shift.job ++ (s.history.begun.map Prod.fst).toList ++
          s.sink.worker.jobs) := by
      simp [Worker.History.row, hsplit, hjob]
    exact split_unique hmark (hrow ▸ hnodup) (hrow.symm.trans hrow')
  have hahead := hplaces place hplace
  rw [hdone, List.filter_map, List.length_map] at hahead
  exact hahead

/-- When the ticket has been answered with true, all lines in front of it have been attempted. -/
theorem Guards.attempted {s : Service μ} {places : List Nat} {ticket : Nat}
    (hguards : Guards places ticket s) (h : s.Kept) (hanswer : s.sink.answer? ticket = some true)
    {place : Nat} (hplace : place ∈ places) {r : Record} {layout : Layout}
    (haccepted : s.accepted[place]? = some (r, layout)) : Attempted place r s := by
  obtain ⟨earlier, flush, later, hsplit, hjob, hflushed⟩ := h.answered hanswer
  have hlines := hguards.lt_of_split h hsplit hjob hplace
  exact ⟨earlier, flush, later, _, layout, hsplit, hflushed, List.getElem?_eq_getElem hlines,
    haccepted, h.line_shown hsplit hlines haccepted⟩

end Service

end LogShipping.LineSink
