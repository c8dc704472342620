import LogShipping.Numeric.Shortest
import LogShipping.Proofs.Numeric.Spacing

/-!
The decimal that is chosen for a double rounds to it. Seventeen digits are always enough: at that
many the neighbouring decimals are closer to each other than the double is to the next one.
-/

namespace LogShipping

open Binary64

namespace Decimal

def value (d : Decimal) : Rat :=
  d.significand * 10 ^ d.exponent

theorem value_nonneg (d : Decimal) : 0 ≤ d.value := by
  unfold value
  positivity

private theorem value_trimmed (significand : Nat) (exponent : Int) :
    (trimmed significand exponent).value = significand * 10 ^ exponent := by
  induction significand, exponent using Decimal.trimmed.induct with
  | case1 significand exponent hzero ih =>
      have hsplit : significand = significand / 10 * 10 := by omega
      rw [trimmed, if_pos hzero, ih, zpow_add_one₀ (by norm_num)]
      conv_rhs => rw [hsplit]
      push_cast
      ring
  | case2 significand exponent hzero =>
      rw [trimmed, if_neg hzero]
      rfl

private theorem trimmed_pos {significand : Nat} {exponent : Int} (h : 0 < significand) :
    0 < (trimmed significand exponent).significand := by
  induction significand, exponent using Decimal.trimmed.induct with
  | case1 significand exponent hzero ih =>
      rw [trimmed, if_pos hzero]
      exact ih (by omega)
  | case2 significand exponent hzero =>
      rw [trimmed, if_neg hzero]
      exact h

end Decimal

namespace Shortest

private theorem scales_eq (q p : Int) :
    ∃ s : Rat, 0 < s ∧ ((scales q p).1 : Rat) = s * 10 ^ p ∧
      ((scales q p).2 : Rat) = s * 2 ^ (q - 2) := by
  refine ⟨10 ^ (-p).toNat * 2 ^ (2 - q).toNat, by positivity, ?_, ?_⟩
  · have hten : (10 : Rat) ^ p.toNat = 10 ^ (-p).toNat * 10 ^ p := by
      rw [← zpow_natCast, ← zpow_natCast, ← zpow_add₀ (by norm_num)]
      congr 1
      omega
    simp only [scales, Nat.shiftLeft_eq, Nat.pow_eq]
    push_cast
    rw [hten]
    ring
  · have htwo : (2 : Rat) ^ (q - 2).toNat = 2 ^ (2 - q).toNat * 2 ^ (q - 2) := by
      rw [← zpow_natCast, ← zpow_natCast, ← zpow_add₀ (by norm_num)]
      congr 1
      omega
    simp only [scales, Nat.shiftLeft_eq, Nat.pow_eq]
    push_cast
    rw [htwo]
    ring

theorem scaled_le_iff (q p : Int) (c u : Nat) :
    c * (scales q p).1 ≤ u * (scales q p).2 ↔ (c : Rat) * 10 ^ p ≤ u * 2 ^ (q - 2) := by
  obtain ⟨s, hs, hten, htwo⟩ := scales_eq q p
  rw [← Nat.cast_le (α := Rat)]
  push_cast
  rw [hten, htwo, mul_left_comm, mul_left_comm (u : Rat)]
  exact mul_le_mul_iff_right₀ hs

theorem le_scaled_iff (q p : Int) (c u : Nat) :
    u * (scales q p).2 ≤ c * (scales q p).1 ↔ (u : Rat) * 2 ^ (q - 2) ≤ c * 10 ^ p := by
  obtain ⟨s, hs, hten, htwo⟩ := scales_eq q p
  rw [← Nat.cast_le (α := Rat)]
  push_cast
  rw [hten, htwo, mul_left_comm, mul_left_comm (c : Rat)]
  exact mul_le_mul_iff_right₀ hs

private theorem gapBelow_le (m : Nat) (q : Int) : gapBelow m q ≤ 2 := by
  unfold gapBelow
  split <;> decide

private theorem quarter (q : Int) : (2 : Rat) ^ (q - 2) = 2 ^ q / 4 := by
  rw [zpow_sub₀ (by norm_num)]
  norm_num

private theorem low_eq {m : Nat} (hm : 0 < m) (q : Int) :
    ((4 * m - gapBelow m q : Nat) : Rat) * 2 ^ (q - 2) = magnitude m q - gapDown m q / 2 := by
  have hgap := gapBelow_le m q
  rw [Nat.cast_sub (by omega), quarter]
  unfold gapBelow gapDown magnitude
  split
  · push_cast
    ring
  · push_cast
    ring

private theorem high_eq (m : Nat) (q : Int) :
    ((4 * m + 2 : Nat) : Rat) * 2 ^ (q - 2) = magnitude m q + 2 ^ q / 2 := by
  rw [quarter, magnitude]
  push_cast
  ring

theorem readsBack_iff {m : Nat} (hm : 0 < m) (q p : Int) (c : Nat) :
    readsBack m q p c = true ↔ Within m q (c * 10 ^ p) := by
  have hlow := le_scaled_iff q p c (4 * m - gapBelow m q)
  have hhigh := scaled_le_iff q p c (4 * m + 2)
  rw [low_eq hm] at hlow
  rw [high_eq] at hhigh
  unfold readsBack
  simp only
  split
  · rename_i heven
    rw [decide_eq_true_eq, hlow, hhigh]
    constructor
    · rintro ⟨habove, hbelow⟩
      exact ⟨habove, hbelow, fun _ => heven⟩
    · intro hwithin
      exact ⟨hwithin.above, hwithin.below⟩
  · rename_i hodd
    have hlow' := scaled_le_iff q p c (4 * m - gapBelow m q)
    have hhigh' := le_scaled_iff q p c (4 * m + 2)
    rw [low_eq hm] at hlow'
    rw [high_eq] at hhigh'
    rw [decide_eq_true_eq, ← Nat.not_le, ← Nat.not_le, hlow', hhigh', not_le, not_le]
    constructor
    · rintro ⟨habove, hbelow⟩
      exact .of_lt habove hbelow
    · intro hwithin
      refine ⟨lt_of_le_of_ne hwithin.above ?_, lt_of_le_of_ne hwithin.below ?_⟩
      · intro heq
        exact hodd (hwithin.tie (.inl heq.symm))
      · intro heq
        exact hodd (hwithin.tie (.inr heq))

private theorem scales_fst_pos (q p : Int) : 0 < (scales q p).1 := by
  simp only [scales, Nat.shiftLeft_eq]
  exact Nat.mul_pos (Nat.pow_pos (by decide)) (Nat.two_pow_pos _)

private theorem four_mul_quarter (m : Nat) (q : Int) :
    ((4 * m : Nat) : Rat) * 2 ^ (q - 2) = magnitude m q := by
  rw [quarter, magnitude]
  push_cast
  ring

private theorem floorAt_le (m : Nat) (q p : Int) :
    (floorAt m q p : Rat) * 10 ^ p ≤ magnitude m q := by
  rw [← four_mul_quarter, ← scaled_le_iff]
  exact Nat.div_mul_le_self _ _

private theorem succ_mul_pow (c : Nat) (p : Int) :
    ((c + 1 : Nat) : Rat) * 10 ^ p = (c : Rat) * 10 ^ p + 10 ^ p := by
  push_cast
  ring

private theorem lt_floorAt_succ (m : Nat) (q p : Int) :
    magnitude m q < (floorAt m q p : Rat) * 10 ^ p + 10 ^ p := by
  rw [← succ_mul_pow, ← four_mul_quarter, ← not_le, ← scaled_le_iff, Nat.not_le,
    Nat.mul_comm _ (scales q p).1]
  exact Nat.lt_mul_div_succ _ (scales_fst_pos q p)

theorem floorAt_pos_iff (m : Nat) (q p : Int) :
    0 < floorAt m q p ↔ (10 : Rat) ^ p ≤ magnitude m q := by
  have hone := scaled_le_iff q p 1 (4 * m)
  rw [four_mul_quarter, Nat.cast_one, one_mul, one_mul] at hone
  rw [← hone]
  exact Nat.div_pos_iff.trans (and_iff_right (scales_fst_pos q p))

private theorem floorAt_leadingFrom {m : Nat} {q : Int} (fuel : Nat) {start : Int}
    (h : 0 < floorAt m q (start - fuel)) : 0 < floorAt m q (leadingFrom m q fuel start) := by
  induction fuel generalizing start with
  | zero => simpa [leadingFrom] using h
  | succ fuel ih =>
      unfold leadingFrom
      split
      · assumption
      · apply ih
        have hstart : start - 1 - (fuel : Int) = start - ((fuel + 1 : Nat) : Int) := by
          push_cast
          ring
        rw [hstart]
        exact h

private theorem pow_ten_le_magnitude {m : Nat} (hm : 0 < m) {q : Int} (hq : minExponent ≤ q) :
    (10 : Rat) ^ (308 - ((633 : Nat) : Int)) ≤ magnitude m q := by
  have hpowers : (2 : Rat) ^ 1075 ≤ 10 ^ 325 := by
    calc
      (2 : Rat) ^ 1075 = (2 ^ 43) ^ 25 := by rw [← pow_mul]
      _ ≤ (10 ^ 13) ^ 25 := pow_le_pow_left₀ (by positivity) (by norm_num) 25
      _ = 10 ^ 325 := by rw [← pow_mul]
  have hone : (1 : Rat) ≤ m := by exact_mod_cast hm
  have hpos : (0 : Rat) < 2 ^ q := by positivity
  calc
    (10 : Rat) ^ (308 - ((633 : Nat) : Int)) = (10 ^ 325)⁻¹ := by
        rw [← zpow_natCast, ← zpow_neg]
        rfl
    _ ≤ (2 ^ 1075)⁻¹ := inv_anti₀ (by positivity) hpowers
    _ = 2 ^ (-((1075 : Nat) : Int)) := by rw [zpow_neg, zpow_natCast]
    _ ≤ 2 ^ q := zpow_le_zpow_right₀ (by norm_num) (by
        simp only [minExponent] at hq
        omega)
    _ ≤ magnitude m q := le_mul_of_one_le_left hpos.le hone

private theorem pow_leading_le {m : Nat} {q : Int} (h : Canonical m q) (hm : 0 < m) :
    (10 : Rat) ^ leading m q ≤ magnitude m q := by
  rw [← floorAt_pos_iff]
  apply floorAt_leadingFrom
  rw [floorAt_pos_iff]
  exact pow_ten_le_magnitude hm h.low

/-- At seventeen digits the step from one decimal to the next is too small to miss the numbers that
round to the double. -/
theorem step_lt {m : Nat} {q p : Int} (h : Canonical m q) (hp : 10 ^ 16 * 10 ^ p ≤ magnitude m q) :
    (10 : Rat) ^ p < gapDown m q / 2 + 2 ^ q / 2 := by
  have hpos : (0 : Rat) < 2 ^ q := by positivity
  unfold gapDown
  split
  · rename_i hbottom
    rw [hbottom.1, magnitude] at hp
    norm_num [hiddenBit] at hp
    linarith
  · have hshort : (m : Rat) ≤ 2 * (hiddenBit : Nat) := by exact_mod_cast h.short.le
    have hlarge : magnitude m q ≤ 2 * (hiddenBit : Nat) * 2 ^ q :=
      mul_le_mul_of_nonneg_right hshort hpos.le
    norm_num [hiddenBit] at hp hlarge
    linarith

theorem readsBack_of_step {m : Nat} {q p : Int} (h : Canonical m q) (hm : 0 < m)
    (hp : 10 ^ 16 * 10 ^ p ≤ magnitude m q) :
    readsBack m q p (floorAt m q p) = true ∨ readsBack m q p (floorAt m q p + 1) = true := by
  have hfloor := floorAt_le m q p
  have hnext := lt_floorAt_succ m q p
  have hstep := step_lt h hp
  have hgap := gapDown_pos m q
  have hpos : (0 : Rat) < 2 ^ q := by positivity
  rw [readsBack_iff hm, readsBack_iff hm]
  rcases lt_or_ge (magnitude m q - gapDown m q / 2) (floorAt m q p * 10 ^ p) with hnear | hfar
  · left
    exact .of_lt hnear (by linarith)
  · right
    rw [succ_mul_pow]
    exact .of_lt (by linarith) (by linarith)

theorem atExponent_spec {tie : TieRule} {m : Nat} {q p : Int} {d : Decimal}
    (h : atExponent tie m q p = some d) :
    ∃ c, d = .trimmed c p ∧ readsBack m q p c = true := by
  unfold atExponent at h
  cases hbelow : readsBack m q p (floorAt m q p) with
  | false =>
      cases habove : readsBack m q p (floorAt m q p + 1) with
      | false => simp [hbelow, habove] at h
      | true =>
          simp only [hbelow, habove, Option.some.injEq] at h
          exact ⟨floorAt m q p + 1, h.symm, habove⟩
  | true =>
      cases habove : readsBack m q p (floorAt m q p + 1) with
      | false =>
          simp only [hbelow, habove, Option.some.injEq] at h
          exact ⟨floorAt m q p, h.symm, hbelow⟩
      | true =>
          simp only [hbelow, habove, Option.some.injEq] at h
          refine ⟨_, h.symm, ?_⟩
          split
          · exact hbelow
          · split
            · exact habove
            · split
              · exact habove
              · split
                · exact hbelow
                · exact habove

private theorem isSome_atExponent (tie : TieRule) {m : Nat} {q p : Int}
    (h : readsBack m q p (floorAt m q p) = true ∨ readsBack m q p (floorAt m q p + 1) = true) :
    (atExponent tie m q p).isSome = true := by
  unfold atExponent
  rcases h with hbelow | habove
  · cases habove : readsBack m q p (floorAt m q p + 1) <;> simp [hbelow, habove]
  · cases hbelow : readsBack m q p (floorAt m q p) <;> simp [hbelow, habove]

theorem ofBinary_spec (tie : TieRule) {m : Nat} {q : Int} (h : Canonical m q) (hm : 0 < m) :
    ∃ c p, ofBinary tie m q = .trimmed c p ∧ readsBack m q p c = true := by
  have hleading := pow_leading_le h hm
  have hlast : (10 : Rat) ^ 16 * 10 ^ (leading m q - ((16 : Nat) : Int)) ≤ magnitude m q := by
    rw [zpow_sub₀ (by norm_num), zpow_natCast, mul_div_cancel₀ _ (by positivity)]
    exact hleading
  have hcandidate := isSome_atExponent tie (readsBack_of_step h hm hlast)
  simp only [ofBinary, Nat.ne_of_gt hm, if_false]
  cases hfound : List.findSome? (atExponent tie m q)
      ((List.range 17).map fun (extra : Nat) => leading m q - extra) with
  | none =>
      rw [List.findSome?_eq_none_iff] at hfound
      have hmem : leading m q - ((16 : Nat) : Int) ∈
          (List.range 17).map fun (extra : Nat) => leading m q - extra :=
        List.mem_map.mpr ⟨16, by simp, rfl⟩
      rw [hfound _ hmem] at hcandidate
      cases hcandidate
  | some d =>
      obtain ⟨p, -, hat⟩ := List.exists_of_findSome?_eq_some hfound
      obtain ⟨c, hd, hreads⟩ := atExponent_spec hat
      exact ⟨c, p, hd, hreads⟩

/-- The decimal that is chosen rounds to the double. -/
theorem within_ofBinary (tie : TieRule) {m : Nat} {q : Int} (h : Canonical m q) :
    Within m q (ofBinary tie m q).value := by
  rcases Nat.eq_zero_or_pos m with rfl | hm
  · have hvalue : (ofBinary tie 0 q).value = 0 := by
      simp [ofBinary, Decimal.value]
    have hgap := gapDown_pos 0 q
    have hpos : (0 : Rat) < 2 ^ q := by positivity
    rw [hvalue]
    apply Within.of_lt
    · rw [magnitude_zero]
      linarith
    · rw [magnitude_zero]
      linarith
  · obtain ⟨c, p, hd, hreads⟩ := ofBinary_spec tie h hm
    rw [hd, Decimal.value_trimmed]
    exact (readsBack_iff hm q p c).mp hreads

theorem ofBinary_cases (tie : TieRule) {m : Nat} {q : Int} (h : Canonical m q) :
    0 < (ofBinary tie m q).significand ∨ (ofBinary tie m q).exponent = 0 := by
  rcases Nat.eq_zero_or_pos m with rfl | hm
  · right
    simp [ofBinary]
  · left
    obtain ⟨c, p, hd, hreads⟩ := ofBinary_spec tie h hm
    have hpos := ((readsBack_iff hm q p c).mp hreads).pos hm
    rw [hd]
    apply Decimal.trimmed_pos
    apply Nat.pos_of_ne_zero
    rintro rfl
    simp at hpos

end Shortest

end LogShipping
