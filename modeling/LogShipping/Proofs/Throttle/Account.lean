import LogShipping.Throttle

/-!
The account of a throttle: what has been counted is what has been told and what is still to be told.
The count is kept in a word, so whole turns of the word are lost to both.
-/

namespace LogShipping.Throttle

/-- Of the drops that were `counted`, `told` have been told, and the others wait for a report. -/
def Accounts (counted told : Nat) (t : Throttle) : Prop :=
  ∃ turns, counted = told + t.dropped.toNat + turns * UInt64.size

def toldBy (report : Option UInt64) : Nat :=
  (report.map UInt64.toNat).getD 0

@[simp] theorem toldBy_none : toldBy none = 0 := rfl

@[simp] theorem toldBy_some (count : UInt64) : toldBy (some count) = count.toNat := rfl

theorem eq_zero_of_not_pos {count : UInt64} (h : ¬0 < count) : count = 0 :=
  UInt64.le_zero_iff.mp (UInt64.not_lt.mp h)

private theorem toldBy_of_pos (count : UInt64) :
    toldBy (if 0 < count then some count else none) = count.toNat := by
  by_cases hcount : 0 < count
  · simp [hcount]
  · rw [eq_zero_of_not_pos hcount]
    rfl

theorem accounts_new (interval now : Nat) : (new interval now).Accounts 0 0 :=
  ⟨0, rfl⟩

variable {counted told : Nat} {t : Throttle}

theorem Accounts.exact (h : t.Accounts counted told) (hfew : counted < UInt64.size) :
    counted = told + t.dropped.toNat := by
  obtain ⟨turns, hcounted⟩ := h
  cases turns with
  | zero => simpa using hcounted
  | succ turns =>
      rw [Nat.succ_mul] at hcounted
      omega

theorem Accounts.recordDrop (h : t.Accounts counted told) :
    t.recordDrop.Accounts (counted + 1) told := by
  obtain ⟨turns, hcounted⟩ := h
  have hword : t.recordDrop.dropped.toNat = (t.dropped.toNat + 1) % UInt64.size :=
    UInt64.toNat_add _ _
  have hlt : t.dropped.toNat < UInt64.size := t.dropped.toNat_lt
  by_cases hfull : t.dropped.toNat + 1 = UInt64.size
  · refine ⟨turns + 1, ?_⟩
    rw [hword, hfull, Nat.mod_self, Nat.succ_mul]
    omega
  · refine ⟨turns, ?_⟩
    rw [hword, Nat.mod_eq_of_lt (by omega)]
    omega

theorem Accounts.takeDropped (h : t.Accounts counted told) :
    t.takeDropped.2.Accounts counted (told + t.dropped.toNat) := by
  obtain ⟨turns, hcounted⟩ := h
  exact ⟨turns, by simpa [Throttle.takeDropped] using hcounted⟩

theorem Accounts.of_dropped {t' : Throttle} (h : t.Accounts counted told)
    (hsame : t'.dropped = t.dropped) : t'.Accounts counted told := by
  rw [Accounts, hsame]
  exact h

theorem reportIfDue_eq (now : Nat) (t : Throttle) :
    t.reportIfDue now =
      if t.isDue now t.lastReport then
        (t.takeDropped.2.restart now, if 0 < t.dropped then some t.dropped else none)
      else (t, none) := by
  by_cases hdue : t.isDue now t.lastReport
  · simp only [reportIfDue, claim?, hdue, if_true]
    rfl
  · simp [reportIfDue, hdue]

private theorem Accounts.reportIfDue (h : t.Accounts counted told) (now : Nat) :
    (t.reportIfDue now).1.Accounts counted (told + toldBy (t.reportIfDue now).2) := by
  rw [reportIfDue_eq]
  by_cases hdue : t.isDue now t.lastReport
  · simp only [hdue, if_true, toldBy_of_pos]
    exact h.takeDropped.of_dropped rfl
  · simpa [hdue] using h

theorem Accounts.drop (h : t.Accounts counted told) (now : Nat) :
    (t.drop now).1.Accounts (counted + 1) (told + toldBy (t.drop now).2) :=
  h.recordDrop.reportIfDue now

theorem flush_eq (now : Nat) (t : Throttle) :
    t.flush now =
      (if 0 < t.dropped then t.takeDropped.2.restart now else t.takeDropped.2,
        if 0 < t.dropped then some t.dropped else none) := by
  by_cases hcount : 0 < t.dropped <;> simp [flush, Throttle.takeDropped, hcount]

theorem dropped_flush (now : Nat) (t : Throttle) : (t.flush now).1.dropped = 0 := by
  rw [flush_eq]
  by_cases hcount : 0 < t.dropped <;> simp [hcount, Throttle.takeDropped, restart]

theorem Accounts.flush (h : t.Accounts counted told) (now : Nat) :
    (t.flush now).1.Accounts counted (told + toldBy (t.flush now).2) := by
  have htold : toldBy (t.flush now).2 = t.dropped.toNat := by
    rw [flush_eq]
    exact toldBy_of_pos t.dropped
  rw [htold]
  exact h.takeDropped.of_dropped (dropped_flush now t)

end LogShipping.Throttle
