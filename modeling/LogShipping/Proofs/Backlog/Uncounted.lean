import LogShipping.Backlog.Calls
import LogShipping.Proofs.Backlog.Admission

namespace LogShipping.Backlog

variable {α : Type}

/-- What would be stored if nothing had been put in without being counted. -/
def countedOnly (q : Backlog α) : Backlog α :=
  { q with entries := q.entries.filter Entry.counted }

@[simp] theorem countedOnly_empty : (empty : Backlog α).countedOnly = empty := rfl

@[simp] theorem size_countedOnly (q : Backlog α) : q.countedOnly.size = q.size := rfl

private theorem countedOnly_store (item : α) (q : Backlog α) :
    (q.store ⟨item, true⟩).countedOnly = q.countedOnly.store ⟨item, true⟩ := by
  simp [countedOnly, store]

@[simp] theorem countedOnly_push (item : α) (q : Backlog α) :
    (q.push item).countedOnly = q.countedOnly.push item :=
  countedOnly_store item q.count

@[simp] theorem countedOnly_pushUncounted (item : α) (q : Backlog α) :
    (q.pushUncounted item).countedOnly = q.countedOnly := by
  simp [countedOnly, pushUncounted, store]

private theorem countedOnly_discount (entry : Entry α) (q : Backlog α) :
    (q.discount entry).countedOnly = q.countedOnly.discount entry := by
  unfold discount
  split <;> rfl

private theorem take?_countedOnly {q rest : Backlog α} {entry : Entry α}
    (h : q.take? = some (entry, rest)) (hcounted : entry.counted) :
    q.countedOnly.take? = some (entry, rest.countedOnly) := by
  obtain ⟨hsize, hentries⟩ := take?_eq_some h
  simp [countedOnly, take?, hentries, hcounted, hsize]

private theorem countedOnly_of_take? {q rest : Backlog α} {entry : Entry α}
    (h : q.take? = some (entry, rest)) (huncounted : entry.counted = false) :
    rest.countedOnly = q.countedOnly := by
  obtain ⟨hsize, hentries⟩ := take?_eq_some h
  simp [countedOnly, hentries, huncounted, hsize]

private theorem entries_of_take?_eq_none {q : Backlog α} (h : q.take? = none) : q.entries = [] := by
  obtain ⟨entries, size⟩ := q
  cases entries with
  | nil => rfl
  | cons entry rest => simp [take?] at h

private theorem take?_countedOnly_eq_none {q : Backlog α} (h : q.take? = none) :
    q.countedOnly.take? = none := by
  simp [countedOnly, take?, entries_of_take?_eq_none h]

private theorem entries_discount (entry : Entry α) (q : Backlog α) :
    (q.discount entry).entries = q.entries := by
  unfold discount
  split <;> rfl

private theorem popped?_of (turn : Nat × Call α) (q : Backlog α) :
    (Event.of turn q).reply.popped? = (Event.of turn q).taken.map Entry.item := by
  obtain ⟨handle, call⟩ := turn
  cases call with
  | tryPush limit item =>
      rcases Nat.lt_or_ge q.size limit with room | full
      · simp [Event.of, answer_of_room room, taken?, Reply.popped?]
      · simp [Event.of, answer_of_full full, taken?, Reply.popped?]
  | pop =>
      cases htake : q.take? with
      | none => simp [Event.of, answer_pop_nothing htake, taken?, htake, Reply.popped?]
      | some taken =>
          obtain ⟨entry, rest⟩ := taken
          simp [Event.of, answer_pop htake, taken?, htake, Reply.popped?]
  | _ => rfl

private theorem entries_answer (turn : Nat × Call α) (q : Backlog α) :
    q.entries ++ (Event.of turn q).entered?.toList =
      (Event.of turn q).taken.toList ++ (q.answer turn.2).2.entries := by
  obtain ⟨handle, call⟩ := turn
  cases call with
  | push item => rfl
  | pushUncounted item => rfl
  | tryPush limit item =>
      rcases Nat.lt_or_ge q.size limit with room | full
      · simp [Event.of, Event.entered?, answer_of_room room, taken?, push, store, count]
      · simp [Event.of, Event.entered?, answer_of_full full, taken?]
  | pop =>
      cases htake : q.take? with
      | none => simp [Event.of, Event.entered?, answer_pop_nothing htake, taken?, htake]
      | some taken =>
          obtain ⟨entry, rest⟩ := taken
          simp [Event.of, Event.entered?, answer_pop htake, taken?, htake, entries_discount,
            (take?_eq_some htake).2]
  | readSize => simp [Event.of, Event.entered?, answer, taken?]
  | readClear => simp [Event.of, Event.entered?, answer, taken?]

/-- A call that only moves an entry that does not count leaves the others where they are. -/
theorem countedOnly_answer {turn : Nat × Call α} {q : Backlog α}
    (h : (Event.of turn q).isUncounted = true) :
    (q.answer turn.2).2.countedOnly = q.countedOnly := by
  obtain ⟨handle, call⟩ := turn
  cases call with
  | pushUncounted item => exact countedOnly_pushUncounted item q
  | pop =>
      cases htake : q.take? with
      | none => simp [Event.of, Event.isUncounted, taken?, htake] at h
      | some taken =>
          obtain ⟨entry, rest⟩ := taken
          have huncounted : entry.counted = false := by
            simpa [Event.of, Event.isUncounted, taken?, htake] using h
          rw [answer_pop htake, countedOnly_discount, countedOnly_of_take? htake huncounted]
          simp [discount, huncounted]
  | _ => simp [Event.of, Event.isUncounted] at h

/-- Any other call cannot tell whether entries that do not count are stored. -/
theorem answer_countedOnly {turn : Nat × Call α} {q : Backlog α}
    (h : (Event.of turn q).isUncounted = false) :
    Event.of turn q.countedOnly = Event.of turn q ∧
      (q.countedOnly.answer turn.2).2 = (q.answer turn.2).2.countedOnly := by
  obtain ⟨handle, call⟩ := turn
  cases call with
  | push item => exact ⟨rfl, (countedOnly_push item q).symm⟩
  | pushUncounted item => simp [Event.of, Event.isUncounted] at h
  | tryPush limit item =>
      rcases Nat.lt_or_ge q.size limit with room | full
      · have room' : q.countedOnly.size < limit := by simpa using room
        simp [Event.of, answer_of_room room, answer_of_room room', taken?]
      · have full' : limit ≤ q.countedOnly.size := by simpa using full
        simp [Event.of, answer_of_full full, answer_of_full full', taken?]
  | pop =>
      cases htake : q.take? with
      | none =>
          have htake' := take?_countedOnly_eq_none htake
          simp [Event.of, answer_pop_nothing htake, answer_pop_nothing htake', taken?, htake,
            htake']
      | some taken =>
          obtain ⟨entry, rest⟩ := taken
          have hcounted : entry.counted = true := by
            simpa [Event.of, Event.isUncounted, taken?, htake] using h
          have htake' := take?_countedOnly htake hcounted
          simp [Event.of, answer_pop htake, answer_pop htake', taken?, htake, htake',
            countedOnly_discount]
  | readSize => exact ⟨rfl, rfl⟩
  | readClear => exact ⟨rfl, rfl⟩

private theorem map_turn_history (turns : List (Nat × Call α)) (q : Backlog α) :
    (history turns q).map Event.turn = turns := by
  induction turns generalizing q with
  | nil => rfl
  | cons turn rest ih => exact congrArg (turn :: ·) (ih _)

private theorem popped?_of_mem_history {turns : List (Nat × Call α)} {q : Backlog α} {e : Event α}
    (h : e ∈ history turns q) : e.reply.popped? = e.taken.map Entry.item := by
  induction turns generalizing q with
  | nil => cases h
  | cons turn rest ih =>
      rcases List.mem_cons.mp h with rfl | hrest
      · exact popped?_of turn q
      · exact ih hrest

private theorem getElem?_history (turns : List (Nat × Call α)) (q : Backlog α) (n : Nat) :
    (history turns q)[n]? = turns[n]?.map fun turn => .of turn (after (turns.take n) q) := by
  induction turns generalizing q n with
  | nil => rfl
  | cons turn rest ih =>
      cases n with
      | zero => rfl
      | succ n => exact ih (q.answer turn.2).2 n

theorem reply_pop_eq_nothing_iff (handle : Nat) (q : Backlog α) :
    (Event.of (handle, .pop) q).reply = .nothing ↔ q.entries = [] := by
  have hitems : q.entries = [] ↔ q.pop? = none := by
    rw [pop?_eq_none_iff, items, List.map_eq_nil_iff]
  rw [hitems]
  cases hpop : q.pop? <;> simp [Event.of, answer, hpop]

private theorem entries_after (turns : List (Nat × Call α)) (q : Backlog α) :
    q.entries ++ (history turns q).filterMap Event.entered? =
      (history turns q).filterMap Event.taken ++ (after turns q).entries := by
  induction turns generalizing q with
  | nil => simp [history, after]
  | cons turn rest ih =>
      have hfirst := entries_answer turn q
      have hrest := ih (q.answer turn.2).2
      simp only [history, after, List.filterMap_eq_flatMap_toList, List.flatMap_cons] at hrest ⊢
      rw [← List.append_assoc, hfirst, List.append_assoc, hrest, List.append_assoc]

/-- The calls that are left give rise to the events that are left. -/
theorem history_countedOnly (turns : List (Nat × Call α)) (q : Backlog α) :
    history (((history turns q).filter fun e => !e.isUncounted).map Event.turn) q.countedOnly =
      (history turns q).filter fun e => !e.isUncounted := by
  induction turns generalizing q with
  | nil => rfl
  | cons turn rest ih =>
      -- The shorter run goes on from what counts of the queue in the longer one.
      have hrest := ih (q.answer turn.2).2
      rw [history]
      cases h : (Event.of turn q).isUncounted with
      | true =>
          rw [List.filter_cons_of_neg (by simp [h]), ← countedOnly_answer h]
          exact hrest
      | false =>
          obtain ⟨hevent, hanswer⟩ := answer_countedOnly h
          rw [List.filter_cons_of_pos (by simp [h]), List.map_cons, history]
          have hturn : (Event.of turn q).turn = turn := rfl
          rw [hturn, hevent, hanswer, hrest]

/-- However the calls are mixed, leave out those that put an item in without counting it, and the
pops that took such items out: every call that is left, be it a reading of the counter, has the same
answer. All items come out in the order in which they were put in, and a pop has nothing to answer
only when nothing is stored. -/
theorem uncounted_unnoticed (turns : List (Nat × Call α)) :
    let events := history turns .empty
    let left := events.filter fun e => !e.isUncounted
    events.map Event.turn = turns ∧
      history (left.map Event.turn) .empty = left ∧
      (∀ e ∈ events, e.reply.popped? = e.taken.map Entry.item) ∧
      events.filterMap Event.entered? =
        events.filterMap Event.taken ++ (after turns .empty).entries ∧
      (∀ (n : Nat) (e : Event α), events[n]? = some e → e.call = .pop →
        (e.reply = .nothing ↔ (after (turns.take n) .empty).entries = [])) := by
  intro events left
  have hleft := history_countedOnly turns (empty : Backlog α)
  rw [countedOnly_empty] at hleft
  refine ⟨map_turn_history turns .empty, hleft, ?_, ?_, ?_⟩
  · intro e hmem
    exact popped?_of_mem_history hmem
  · exact entries_after turns .empty
  · intro n e hevent hcall
    rw [getElem?_history, Option.map_eq_some_iff] at hevent
    obtain ⟨⟨handle, call⟩, -, rfl⟩ := hevent
    obtain rfl : call = .pop := hcall
    exact reply_pop_eq_nothing_iff handle _

/-- The item 8 takes no place from the others, and neither gives one back. -/
example :
    let turns : List (Nat × Call Nat) :=
      [(0, .tryPush 1 7), (1, .pushUncounted 8), (0, .tryPush 1 9), (1, .pop), (0, .readSize),
        (1, .pop), (0, .readSize), (0, .pop)]
    ((history turns .empty).filter fun e => !e.isUncounted).map (fun e => (e.call, e.reply)) =
      [(.tryPush 1 7, .pushed), (.tryPush 1 9, .rejected 9), (.pop, .popped 7),
        (.readSize, .size 0), (.readSize, .size 0), (.pop, .nothing)] := by
  decide

end LogShipping.Backlog
