import LogShipping.Proofs.Throttle.Account
import Mathlib.Algebra.GroupWithZero.Nat

namespace LogShipping.Throttle

/-- What a step does to a throttle and to the number of refusals told, and whether it refuses. -/
inductive Use (t : Throttle) (told : Nat) : Bool → Throttle → Nat → Prop
  | leave : Use t told false t told
  | drop (now : Nat) : Use t told true (t.drop now).1 (told + toldBy (t.drop now).2)
  | flush (now : Nat) : Use t told false (t.flush now).1 (told + toldBy (t.flush now).2)

section

variable {t t' : Throttle} {told told' now : Nat} {refused : Bool}

theorem use_of_leave (hthrottle : t' = t) (htold : told' = told) : Use t told false t' told' := by
  subst hthrottle htold
  exact .leave

theorem use_of_drop (hthrottle : t' = (t.drop now).1) (htold : told' = told + toldBy (t.drop now).2) :
    Use t told true t' told' := by
  subst hthrottle htold
  exact .drop now

theorem use_of_flush (hthrottle : t' = (t.flush now).1)
    (htold : told' = told + toldBy (t.flush now).2) : Use t told false t' told' := by
  subst hthrottle htold
  exact .flush now

theorem Use.accounts {counted : Nat} (h : Use t told refused t' told')
    (haccounts : t.Accounts counted told) : t'.Accounts (counted + refused.toNat) told' := by
  cases h with
  | leave => exact haccounts
  | drop now => exact haccounts.drop now
  | flush now => exact haccounts.flush now

theorem Use.settled (h : Use t told refused t' told') : told' = told ∨ t'.dropped = 0 := by
  cases h with
  | leave => exact .inl rfl
  | flush now => exact .inr (dropped_flush now t)
  | drop now =>
      rw [Throttle.drop, reportIfDue_eq]
      by_cases hdue : t.recordDrop.isDue now t.recordDrop.lastReport
      · exact .inr (by simp [hdue, restart, takeDropped])
      · exact .inl (by simp [hdue])

theorem Use.interval (h : Use t told refused t' told') : t'.interval = t.interval := by
  cases h with
  | leave => rfl
  | flush now =>
      rw [flush_eq]
      split <;> rfl
  | drop now =>
      rw [Throttle.drop, reportIfDue_eq]
      split <;> rfl

end

theorem sum_report {α : Type} (weight : α → Nat) (tell : UInt64 → α)
    (htell : ∀ count, weight (tell count) = count.toNat) (report : Option UInt64) :
    ((report.map tell).toList.map weight).sum = toldBy report := by
  cases report with
  | none => rfl
  | some count => simp [htell]

variable {σ τ : Type}

def refusals (step : τ → σ → σ) (refuses : τ → σ → Bool) : List τ → σ → Nat
  | [], _ => 0
  | turn :: rest, s => (refuses turn s).toNat + refusals step refuses rest (step turn s)

theorem accounts_run (step : τ → σ → σ) (refuses : τ → σ → Bool) (throttle : σ → Throttle)
    (told : σ → Nat)
    (huse : ∀ turn s,
      Use (throttle s) (told s) (refuses turn s) (throttle (step turn s)) (told (step turn s)))
    (turns : List τ) {s : σ} {counted : Nat} (h : (throttle s).Accounts counted (told s)) :
    let last := turns.foldl (fun s turn => step turn s) s
    (throttle last).Accounts (counted + refusals step refuses turns s) (told last) := by
  induction turns generalizing s counted with
  | nil => exact h
  | cons turn rest ih =>
      rw [refusals, ← Nat.add_assoc]
      exact ih ((huse turn s).accounts h)

end LogShipping.Throttle
