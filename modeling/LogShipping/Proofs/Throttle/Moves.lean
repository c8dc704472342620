import LogShipping.Proofs.Throttle.Account
import LogShipping.Throttle.Threads

namespace LogShipping.Throttle

def Shared.takeDropped (s : Shared) : Shared :=
  { s with throttle := s.throttle.takeDropped.2 }

def Shared.restart (now : Nat) (s : Shared) : Shared :=
  { s with throttle := s.throttle.restart now }

/-- Taking the interval and starting it again write the same time; only the former looks first. -/
inductive Effect (s : Shared) : Move → Point → Point → Shared → Prop
  | recordDrop : Effect s .recordDrop .idle .idle s.recordDrop
  | report : Effect s .report .idle .asked s
  | drop : Effect s .drop .idle .asked s.recordDrop
  | flush (some : 0 < s.throttle.dropped) :
      Effect s .flush .idle (.flushing s.throttle.dropped) s.takeDropped
  | flushNothing (none : s.throttle.dropped = 0) : Effect s .flush .idle .idle s
  | read (now : Nat) : Effect s (.resume now) .asked (.timed now) (s.read now)
  | findDue (clock now : Nat) (due : s.throttle.interval ≤ now - s.throttle.lastReport) :
      Effect s (.resume clock) (.timed now) (.due now s.throttle.lastReport) s
  | findEarly (clock now : Nat) (early : now - s.throttle.lastReport < s.throttle.interval) :
      Effect s (.resume clock) (.timed now) .idle s
  | claim (clock now : Nat) :
      Effect s (.resume clock) (.due now s.throttle.lastReport) (.claimed now) (s.restart now)
  | miss (clock now seen : Nat) (overtaken : s.throttle.lastReport ≠ seen) :
      Effect s (.resume clock) (.due now seen) .idle s
  | take (clock now : Nat) (some : 0 < s.throttle.dropped) :
      Effect s (.resume clock) (.claimed now) (.taken now s.throttle.dropped) s.takeDropped
  | takeNothing (clock now : Nat) (none : s.throttle.dropped = 0) :
      Effect s (.resume clock) (.claimed now) .idle s
  | tell (clock now : Nat) (count : UInt64) :
      Effect s (.resume clock) (.taken now count) .idle (s.tell ⟨count, some now⟩)
  | tellFlush (clock : Nat) (count : UInt64) :
      Effect s (.resume clock) (.flushing count) .told (s.tell ⟨count, none⟩)
  | readAgain (now : Nat) : Effect s (.resume now) .told (.restarting now) (s.read now)
  | restart (clock now : Nat) :
      Effect s (.resume clock) (.restarting now) .idle (s.restart now)

private theorem takeDropped_eq_self {s : Shared} (none : s.throttle.dropped = 0) :
    s.takeDropped = s := by
  obtain ⟨⟨interval, lastReport, dropped⟩, drops, readings, reports⟩ := s
  obtain rfl : dropped = 0 := none
  rfl

private theorem effect_of_flush {s s' : Shared} {point' : Point}
    (h : act .flush .idle s = some (point', s')) : Effect s .flush .idle point' s' := by
  obtain ⟨rfl, rfl⟩ := Prod.mk.inj (Option.some.inj h)
  by_cases some : 0 < s.throttle.dropped
  · rw [if_pos some]
    exact .flush some
  · have none := eq_zero_of_not_pos some
    rw [if_neg some]
    change Effect s .flush .idle .idle s.takeDropped
    rw [takeDropped_eq_self none]
    exact .flushNothing none

private theorem effect_of_timed {clock now : Nat} {s s' : Shared} {point' : Point}
    (h : act (.resume clock) (.timed now) s = some (point', s')) :
    Effect s (.resume clock) (.timed now) point' s' := by
  obtain ⟨rfl, rfl⟩ := Prod.mk.inj (Option.some.inj h)
  by_cases due : s.throttle.isDue now s.throttle.lastReport
  · rw [if_pos due]
    exact .findDue clock now (of_decide_eq_true due)
  · rw [if_neg due]
    exact .findEarly clock now (Nat.lt_of_not_le (by simpa [isDue] using due))

private theorem effect_of_due {clock now seen : Nat} {s s' : Shared} {point' : Point}
    (h : act (.resume clock) (.due now seen) s = some (point', s')) :
    Effect s (.resume clock) (.due now seen) point' s' := by
  by_cases same : s.throttle.lastReport = seen
  · subst same
    simp only [act, claim?, if_true, Option.some.injEq, Prod.mk.injEq] at h
    obtain ⟨rfl, rfl⟩ := h
    exact .claim clock now
  · simp only [act, claim?, same, if_false, Option.some.injEq, Prod.mk.injEq] at h
    obtain ⟨rfl, rfl⟩ := h
    exact .miss clock now seen same

private theorem effect_of_claimed {clock now : Nat} {s s' : Shared} {point' : Point}
    (h : act (.resume clock) (.claimed now) s = some (point', s')) :
    Effect s (.resume clock) (.claimed now) point' s' := by
  obtain ⟨rfl, rfl⟩ := Prod.mk.inj (Option.some.inj h)
  by_cases some : 0 < s.throttle.dropped
  · rw [if_pos some]
    exact .take clock now some
  · have none := eq_zero_of_not_pos some
    rw [if_neg some]
    change Effect s (.resume clock) (.claimed now) .idle s.takeDropped
    rw [takeDropped_eq_self none]
    exact .takeNothing clock now none

theorem effect_of_act {move : Move} {point point' : Point} {s s' : Shared}
    (h : act move point s = some (point', s')) : Effect s move point point' s' := by
  cases move with
  | recordDrop => cases point <;> cases h; exact .recordDrop
  | report => cases point <;> cases h; exact .report
  | drop => cases point <;> cases h; exact .drop
  | flush =>
      cases point with
      | idle => exact effect_of_flush h
      | _ => cases h
  | resume clock =>
      cases point with
      | idle => cases h
      | asked => cases h; exact .read clock
      | timed now => exact effect_of_timed h
      | due now seen => exact effect_of_due h
      | claimed now => exact effect_of_claimed h
      | taken now count => cases h; exact .tell clock now count
      | flushing count => cases h; exact .tellFlush clock count
      | told => cases h; exact .readAgain clock
      | restarting now => cases h; exact .restart clock now

def reached (interval now threads : Nat) (schedule : List (Nat × Move)) : Threads Shared Point :=
  (Threads.start (.new (.new interval now)) .idle threads).run act schedule

end LogShipping.Throttle
