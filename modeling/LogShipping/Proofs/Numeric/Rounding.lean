import LogShipping.Proofs.Numeric.Finite
import LogShipping.Proofs.Numeric.Spacing
import Mathlib.Tactic.FieldSimp
import Mathlib.Tactic.NormNum

/-!
The double made of a ratio is the one that the ratio rounds to. Its exponent is that of the binade
in which the ratio lies, and there the ratio is rounded to a whole number of steps. A significand
that is rounded up past the end of the binade carries into the exponent, and the number is the same.
-/

namespace LogShipping

namespace Binary64

/-- A natural number is nearest to a number, and even if another one is as near. -/
structure Nearest (n : Nat) (t : Rat) : Prop where
  above : n - 1 / 2 ≤ t
  below : t ≤ n + 1 / 2
  tie : t = n - 1 / 2 ∨ t = n + 1 / 2 → n % 2 = 0

namespace Nearest

private theorem of_lt {n : Nat} {t : Rat} (habove : n - 1 / 2 < t) (hbelow : t < n + 1 / 2) :
    Nearest n t := by
  refine ⟨habove.le, hbelow.le, ?_⟩
  rintro (heq | heq)
  · exact absurd heq (ne_of_gt habove)
  · exact absurd heq (ne_of_lt hbelow)

private theorem le_of_le {n bound : Nat} {t : Rat} (h : Nearest n t) (hle : t ≤ bound) :
    n ≤ bound := by
  have hcast : (n : Rat) < (bound + 1 : Nat) := by
    push_cast
    linarith [h.above]
  exact Nat.lt_succ_iff.mp (by exact_mod_cast hcast)

private theorem ge_of_ge {n bound : Nat} {t : Rat} (h : Nearest n t) (hge : bound ≤ t) :
    bound ≤ n := by
  have hcast : (bound : Rat) < (n + 1 : Nat) := by
    push_cast
    linarith [h.below]
  exact Nat.lt_succ_iff.mp (by exact_mod_cast hcast)

private theorem eq_of_natCast {n k : Nat} (h : Nearest n k) : n = k :=
  Nat.le_antisymm (h.le_of_le le_rfl) (h.ge_of_ge le_rfl)

end Nearest

private theorem nearest_roundDiv (num : Nat) {den : Nat} (hden : 0 < den) :
    Nearest (roundDiv num den) (num / den) := by
  have hpos : (0 : Rat) < den := by exact_mod_cast hden
  have hparts : (den * (num / den : Nat) + (num % den : Nat) : Rat) = num := by
    exact_mod_cast Nat.div_add_mod num den
  have hratio : (num / den : Rat) = (num / den : Nat) + (num % den : Nat) / (den : Rat) := by
    rw [← hparts]
    field_simp
  have hrest : (0 : Rat) ≤ (num % den : Nat) / (den : Rat) := by positivity
  have hwhole : ((num % den : Nat) : Rat) / den < 1 := by
    rw [div_lt_one hpos]
    exact_mod_cast Nat.mod_lt num hden
  have hbelow : ((num % den : Nat) : Rat) / den < 1 / 2 ↔ 2 * (num % den) < den := by
    rw [div_lt_div_iff₀ hpos two_pos, one_mul, mul_comm]
    exact_mod_cast Iff.rfl
  have habove : 1 / 2 < ((num % den : Nat) : Rat) / den ↔ den < 2 * (num % den) := by
    rw [div_lt_div_iff₀ two_pos hpos, one_mul, mul_comm]
    exact_mod_cast Iff.rfl
  rw [hratio]
  unfold roundDiv
  simp only
  split
  · rename_i hdown
    have hless := hbelow.mpr hdown
    exact .of_lt (by linarith) (by linarith)
  · rename_i hdown
    split
    · rename_i hup
      have hmore := habove.mpr hup
      apply Nearest.of_lt
      · push_cast
        linarith
      · push_cast
        linarith
    · rename_i hup
      have hhalf : ((num % den : Nat) : Rat) / den = 1 / 2 :=
        le_antisymm (not_lt.mp (mt habove.mp hup)) (not_lt.mp (mt hbelow.mp hdown))
      rw [hhalf]
      split
      · rename_i heven
        exact ⟨by linarith, by linarith, fun _ => heven⟩
      · rename_i hodd
        refine ⟨?_, ?_, fun _ => by omega⟩
        · push_cast
          linarith
        · push_cast
          linarith

private theorem natCast_shiftLeft (n k : Nat) : ((n <<< k : Nat) : Rat) = n * 2 ^ k := by
  rw [Nat.shiftLeft_eq]
  push_cast
  rfl

private theorem zpow_toNat {e : Int} (h : 0 ≤ e) : (2 : Rat) ^ e.toNat = 2 ^ e := by
  rw [← zpow_natCast, Int.toNat_of_nonneg h]

private theorem zpow_neg_toNat {e : Int} (h : ¬0 ≤ e) : (2 : Rat) ^ (-e).toNat = (2 ^ e)⁻¹ := by
  rw [zpow_toNat (by omega), zpow_neg]

theorem shifted_le_iff (num : Nat) {den : Nat} (hden : 0 < den) (e : Int) :
    (if 0 ≤ e then den <<< e.toNat ≤ num else den ≤ num <<< (-e).toNat) ↔
      (2 : Rat) ^ e ≤ num / den := by
  have hpos : (0 : Rat) < den := by exact_mod_cast hden
  rw [le_div_iff₀ hpos]
  split
  · rename_i hup
    rw [← Nat.cast_le (α := Rat), natCast_shiftLeft, zpow_toNat hup, mul_comm]
  · rename_i hdown
    rw [← Nat.cast_le (α := Rat), natCast_shiftLeft, zpow_neg_toNat hdown,
      le_mul_inv_iff₀ (by positivity), mul_comm]

private theorem zpow_log2_le {n : Nat} (h : 0 < n) : (2 : Rat) ^ (n.log2 : Int) ≤ n := by
  rw [zpow_natCast]
  exact_mod_cast Nat.log2_self_le (Nat.ne_of_gt h)

private theorem lt_zpow_log2 (n : Nat) : (n : Rat) < 2 ^ ((n.log2 : Int) + 1) := by
  have h : n < 2 ^ (n.log2 + 1) := Nat.lt_log2_self
  exact_mod_cast h

theorem ratioLog2_spec {num den : Nat} (hnum : 0 < num) (hden : 0 < den) :
    (2 : Rat) ^ ratioLog2 num den ≤ num / den ∧
      (num / den : Rat) < 2 ^ (ratioLog2 num den + 1) := by
  have hpos : (0 : Rat) < den := by exact_mod_cast hden
  have hreached := shifted_le_iff num hden ((num.log2 : Int) - den.log2)
  have hupper : (num / den : Rat) < 2 ^ ((num.log2 : Int) - den.log2 + 1) := by
    rw [div_lt_iff₀ hpos]
    calc
      (num : Rat) < 2 ^ ((num.log2 : Int) + 1) := lt_zpow_log2 num
      _ = 2 ^ ((num.log2 : Int) - den.log2 + 1) * 2 ^ (den.log2 : Int) := by
          rw [← zpow_add₀ two_ne_zero]
          congr 1
          ring
      _ ≤ 2 ^ ((num.log2 : Int) - den.log2 + 1) * den :=
          mul_le_mul_of_nonneg_left (zpow_log2_le hden) (by positivity)
  have hlower : (2 : Rat) ^ ((num.log2 : Int) - den.log2 - 1) ≤ num / den := by
    rw [le_div_iff₀ hpos]
    calc
      (2 : Rat) ^ ((num.log2 : Int) - den.log2 - 1) * den
          ≤ 2 ^ ((num.log2 : Int) - den.log2 - 1) * 2 ^ ((den.log2 : Int) + 1) :=
            mul_le_mul_of_nonneg_left (lt_zpow_log2 den).le (by positivity)
      _ = 2 ^ (num.log2 : Int) := by
          rw [← zpow_add₀ two_ne_zero]
          congr 1
          ring
      _ ≤ num := zpow_log2_le hnum
  by_cases hguess : (2 : Rat) ^ ((num.log2 : Int) - den.log2) ≤ num / den
  · have hlog : ratioLog2 num den = (num.log2 : Int) - den.log2 :=
      if_pos (hreached.mpr hguess)
    rw [hlog]
    exact ⟨hguess, hupper⟩
  · have hlog : ratioLog2 num den = (num.log2 : Int) - den.log2 - 1 :=
      if_neg (mt hreached.mp hguess)
    rw [hlog, sub_add_cancel]
    exact ⟨hlower, not_le.mp hguess⟩

/-- The scaled ratio of the rounding is the number of steps of the exponent. -/
theorem nearest_roundedSignificand (num : Nat) {den : Nat} (hden : 0 < den) :
    Nearest (roundedSignificand num den) (num / den / 2 ^ roundingExponent num den) := by
  unfold roundedSignificand
  generalize roundingExponent num den = e
  split
  · rename_i hup
    have hshifted : 0 < den <<< e.toNat := by
      rw [Nat.shiftLeft_eq]
      positivity
    have h := nearest_roundDiv num hshifted
    rwa [natCast_shiftLeft, zpow_toNat hup, ← div_div] at h
  · rename_i hdown
    have h := nearest_roundDiv (num <<< (-e).toNat) hden
    rwa [natCast_shiftLeft, zpow_neg_toNat hdown, ← div_eq_mul_inv, div_right_comm] at h

private theorem roundingExponent_le {num den : Nat} (hnum : 0 < num) (hden : 0 < den) {bound : Int}
    (hbound : minExponent ≤ bound) (h : (num / den : Rat) < 2 ^ (bound + 53)) :
    roundingExponent num den ≤ bound := by
  have hbinade := (ratioLog2_spec hnum hden).1.trans_lt h
  rw [zpow_lt_zpow_iff_right₀ one_lt_two] at hbinade
  simp only [roundingExponent, fractionBits]
  omega

private theorem roundedSignificand_short {num den : Nat} (hnum : 0 < num) (hden : 0 < den) :
    roundedSignificand num den ≤ 2 * hiddenBit := by
  apply (nearest_roundedSignificand num hden).le_of_le
  rw [div_le_iff₀ (by positivity)]
  calc
    (num / den : Rat) ≤ 2 ^ (ratioLog2 num den + 1) := (ratioLog2_spec hnum hden).2.le
    _ ≤ 2 ^ (53 + roundingExponent num den) := by
        apply zpow_le_zpow_right₀ one_le_two
        simp only [roundingExponent, fractionBits]
        omega
    _ = (2 * hiddenBit : Nat) * 2 ^ roundingExponent num den := by
        rw [zpow_add₀ two_ne_zero]
        norm_num [hiddenBit]

private theorem hiddenBit_le_scaled {num den : Nat} (hnum : 0 < num) (hden : 0 < den)
    (hnormal : minExponent < roundingExponent num den) :
    (hiddenBit : Rat) ≤ num / den / 2 ^ roundingExponent num den := by
  have hexponent : roundingExponent num den = ratioLog2 num den - 52 := by
    simp only [roundingExponent, fractionBits] at hnormal ⊢
    omega
  rw [le_div_iff₀ (by positivity)]
  calc
    (hiddenBit : Rat) * 2 ^ roundingExponent num den = 2 ^ (52 + roundingExponent num den) := by
        rw [zpow_add₀ two_ne_zero]
        norm_num [hiddenBit]
    _ = 2 ^ ratioLog2 num den := by rw [hexponent, add_sub_cancel]
    _ ≤ num / den := (ratioLog2_spec hnum hden).1

private theorem decode_word (negative : Bool) {word : Nat} (h : word < 2047 * hiddenBit) :
    decode ⟨UInt64.ofNat (word + if negative then signBit else 0)⟩ =
      if word < hiddenBit then .finite negative word minExponent
      else .finite negative (word % hiddenBit + hiddenBit)
        (minExponent + (word / hiddenBit - 1 : Nat)) := by
  have hexponent : (word + if negative then signBit else 0) / hiddenBit % 2048 =
      word / hiddenBit := by
    simp only [hiddenBit, signBit] at h ⊢
    split <;> omega
  have hfraction : (word + if negative then signBit else 0) % hiddenBit = word % hiddenBit := by
    simp only [hiddenBit, signBit]
    split <;> omega
  have hsign : (signBit ≤ word + if negative then signBit else 0) ↔ negative := by
    simp only [hiddenBit, signBit] at h ⊢
    cases negative with
    | false => simp; omega
    | true => simp
  have hnormal : word / hiddenBit ≠ 2047 := by
    simp only [hiddenBit] at h ⊢
    omega
  simp only [decode, exponentField, fractionField, Binary64.negative, toNat_word negative h.le,
    hexponent, hfraction, hsign, Bool.decide_eq_true]
  rw [if_neg hnormal]
  by_cases hsmall : word < hiddenBit
  · rw [if_pos hsmall, if_pos (Nat.div_eq_of_lt hsmall), Nat.mod_eq_of_lt hsmall]
  · have hlarge : word / hiddenBit ≠ 0 := by
      simp only [hiddenBit] at hsmall ⊢
      omega
    rw [if_neg hsmall, if_neg hlarge]

private theorem decode_ofRatio_zero (negative : Bool) (den : Nat) :
    (ofRatio negative 0 den).decode = .finite negative 0 minExponent := by
  rw [ofRatio_eq, roundedMagnitude, if_pos rfl, decode_word negative (by decide),
    if_pos (by decide)]

/-- What a rounded ratio decodes to. A significand that is one bit too long is carried into the
exponent. -/
theorem decode_ofRatio (negative : Bool) {num den : Nat} (hnum : 0 < num) (hden : 0 < den)
    (hfinite : roundedMagnitude num den < 2047 * hiddenBit) :
    let s := roundedSignificand num den
    let e := roundingExponent num den
    (ofRatio negative num den).decode =
      if s < 2 * hiddenBit then .finite negative s e else .finite negative hiddenBit (e + 1) := by
  intro s e
  have hshort : s ≤ 2 * hiddenBit := roundedSignificand_short hnum hden
  have hnormal : minExponent < e → hiddenBit ≤ s := fun h =>
    (nearest_roundedSignificand num hden).ge_of_ge (hiddenBit_le_scaled hnum hden h)
  have hlow : minExponent ≤ e := Int.le_max_right _ _
  obtain ⟨steps, hsteps⟩ := Int.le.dest hlow
  have hword : roundedMagnitude num den = s + steps * hiddenBit := by
    have hstored : (e - minExponent).toNat = steps := by omega
    rw [roundedMagnitude, if_neg (Nat.ne_of_gt hnum)] at hfinite ⊢
    rw [← hstored]
    exact Nat.min_eq_left (by omega)
  rw [hword] at hfinite
  rw [ofRatio_eq, hword, decode_word negative hfinite]
  by_cases hcarry : s < 2 * hiddenBit
  · rw [if_pos hcarry]
    by_cases hsmall : s < hiddenBit
    · have hzero : steps = 0 := by omega
      subst hzero
      rw [if_pos (by omega), ← hsteps]
      simp
    · have hparts : (s + steps * hiddenBit) % hiddenBit + hiddenBit = s ∧
          (s + steps * hiddenBit) / hiddenBit - 1 = steps := by
        simp only [hiddenBit] at hsmall hcarry ⊢
        omega
      rw [if_neg (by omega), hparts.1, hparts.2, ← hsteps]
  · have hparts : (s + steps * hiddenBit) % hiddenBit + hiddenBit = hiddenBit ∧
        (s + steps * hiddenBit) / hiddenBit - 1 = steps + 1 := by
      simp only [hiddenBit] at hshort hcarry ⊢
      omega
    rw [if_neg hcarry, if_neg (by omega), hparts.1, hparts.2, ← hsteps]
    push_cast
    rw [add_assoc]

private theorem Nearest.scaled {s : Nat} {e : Int} {t : Rat} (h : Nearest s (t / 2 ^ e)) :
    magnitude s e - 2 ^ e / 2 ≤ t ∧ t ≤ magnitude s e + 2 ^ e / 2 ∧
      (t = magnitude s e - 2 ^ e / 2 ∨ t = magnitude s e + 2 ^ e / 2 → s % 2 = 0) := by
  have hpos : (0 : Rat) < 2 ^ e := by positivity
  have habove := (le_div_iff₀ hpos).mp h.above
  have hbelow := (div_le_iff₀ hpos).mp h.below
  rw [magnitude]
  refine ⟨by linarith, by linarith, ?_⟩
  rintro (heq | heq)
  · exact h.tie (.inl ((div_eq_iff hpos.ne').mpr (by linarith)))
  · exact h.tie (.inr ((div_eq_iff hpos.ne').mpr (by linarith)))

private theorem within_ofRatio (negative : Bool) {num den : Nat} (hnum : 0 < num) (hden : 0 < den)
    (hfinite : roundedMagnitude num den < 2047 * hiddenBit) :
    ∃ m q, (ofRatio negative num den).decode = .finite negative m q ∧ Within m q (num / den) ∧
      magnitude m q = magnitude (roundedSignificand num den) (roundingExponent num den) := by
  have hdecode := decode_ofRatio negative hnum hden hfinite
  have hnearest := nearest_roundedSignificand num hden
  have hshort := roundedSignificand_short hnum hden
  have hscaled := hiddenBit_le_scaled hnum hden
  have hlow : minExponent ≤ roundingExponent num den := Int.le_max_right _ _
  generalize roundedSignificand num den = s at *
  generalize roundingExponent num den = e at *
  have hpos : (0 : Rat) < 2 ^ e := by positivity
  obtain ⟨habove, hbelow, htie⟩ := hnearest.scaled
  by_cases hcarry : s < 2 * hiddenBit
  · refine ⟨s, e, hdecode.trans (if_pos hcarry), ?_, rfl⟩
    by_cases hbottom : s = hiddenBit ∧ minExponent < e
    · -- The ratio is not below the power of two, so the closer neighbour there does not matter.
      have hreached : magnitude s e ≤ num / den := by
        rw [hbottom.1]
        exact (le_div_iff₀ hpos).mp (hscaled hbottom.2)
      have hgap := gapDown_pos s e
      refine ⟨by linarith, hbelow, ?_⟩
      rintro (heq | heq)
      · linarith
      · exact htie (.inr heq)
    · have hgap : gapDown s e = 2 ^ e := if_neg hbottom
      refine ⟨?_, hbelow, ?_⟩
      · rwa [hgap]
      · rwa [hgap]
  · obtain rfl : s = 2 * hiddenBit := Nat.le_antisymm hshort (Nat.not_lt.mp hcarry)
    have hdouble : (2 : Rat) ^ (e + 1) = 2 * 2 ^ e := by
      rw [zpow_add_one₀ two_ne_zero, mul_comm]
    have hsame : magnitude hiddenBit (e + 1) = magnitude (2 * hiddenBit) e := by
      rw [magnitude, magnitude, hdouble]
      push_cast
      ring
    have hgap : gapDown hiddenBit (e + 1) = 2 ^ e := by
      rw [gapDown, if_pos ⟨rfl, by omega⟩, hdouble]
      ring
    refine ⟨hiddenBit, e + 1, hdecode.trans (if_neg hcarry), ?_, hsame⟩
    refine ⟨?_, ?_, fun _ => by decide⟩
    · rwa [hsame, hgap]
    · rw [hsame, hdouble]
      linarith

/-- A ratio within the finite doubles is rounded to the nearest of them, which is at most half a
step away. -/
theorem ofRatio_rounds (negative : Bool) (num : Nat) {den : Nat} (hden : 0 < den) {bound : Int}
    (hlow : minExponent ≤ bound) (hhigh : bound ≤ 970) (h : (num / den : Rat) < 2 ^ (bound + 53)) :
    ∃ m q, (ofRatio negative num den).decode = .finite negative m q ∧
      RoundsTo (sign negative * (num / den)) (ofRatio negative num den) ∧
      |(num / den : Rat) - magnitude m q| ≤ 2 ^ bound / 2 := by
  rcases Nat.eq_zero_or_pos num with rfl | hnum
  · refine ⟨0, minExponent, decode_ofRatio_zero negative den, ?_, ?_⟩
    · have hwithin : Within 0 minExponent ((0 : Nat) / den) := by
        have hgap := gapDown_pos 0 minExponent
        have hstep : (0 : Rat) < 2 ^ minExponent := by positivity
        apply Within.of_lt
        · rw [magnitude_zero, Nat.cast_zero, zero_div]
          linarith
        · rw [magnitude_zero, Nat.cast_zero, zero_div]
          linarith
      exact hwithin.roundsTo (decode_ofRatio_zero negative den) (by positivity)
    · rw [magnitude_zero, Nat.cast_zero, zero_div, sub_zero, abs_zero]
      positivity
  · have hexponent := roundingExponent_le hnum hden hlow h
    have hfinite : roundedMagnitude num den < 2047 * hiddenBit := by
      have hshort := roundedSignificand_short hnum hden
      have hsteps : (roundingExponent num den - minExponent).toNat ≤ 2044 := by
        simp only [minExponent]
        omega
      have hscaled := Nat.mul_le_mul_right hiddenBit hsteps
      rw [roundedMagnitude, if_neg (Nat.ne_of_gt hnum)]
      simp only [hiddenBit] at hshort hscaled ⊢
      omega
    obtain ⟨m, q, hdecode, hwithin, hmagnitude⟩ := within_ofRatio negative hnum hden hfinite
    refine ⟨m, q, hdecode, hwithin.roundsTo hdecode (by positivity), ?_⟩
    obtain ⟨habove, hbelow, -⟩ := (nearest_roundedSignificand num hden).scaled
    have hstep : (2 : Rat) ^ roundingExponent num den ≤ 2 ^ bound :=
      zpow_le_zpow_right₀ one_le_two hexponent
    rw [hmagnitude]
    exact abs_le.mpr ⟨by linarith, by linarith⟩

theorem decode_ofInt {n : Int} (h : n.natAbs < 2 ^ 53) :
    ∃ m q, (ofInt n).decode = .finite (n < 0) m q ∧ magnitude m q = n.natAbs := by
  rw [ofInt]
  generalize n.natAbs = num at h
  rcases Nat.eq_zero_or_pos num with rfl | hnum
  · exact ⟨0, minExponent, decode_ofRatio_zero _ _, magnitude_zero _⟩
  · have hbound : ((num : Rat) / (1 : Nat)) < 2 ^ ((0 : Int) + 53) := by
      rw [Nat.cast_one, div_one]
      exact_mod_cast h
    have hexponent := roundingExponent_le hnum Nat.one_pos (by decide) hbound
    have hfinite : roundedMagnitude num 1 < 2047 * hiddenBit := by
      have hlog : num.log2 < 53 := (Nat.log2_lt (Nat.ne_of_gt hnum)).mpr h
      have hle := roundedMagnitude_le num Nat.one_pos
      simp only [hiddenBit] at hle ⊢
      omega
    obtain ⟨m, q, hdecode, -, hmagnitude⟩ :=
      within_ofRatio (decide (n < 0)) hnum Nat.one_pos hfinite
    refine ⟨m, q, hdecode, ?_⟩
    -- The exponent is not positive, so the number has whole steps.
    have hnearest := nearest_roundedSignificand num Nat.one_pos
    generalize roundingExponent num 1 = e at *
    obtain ⟨shift, rfl⟩ : ∃ shift : Nat, e = -shift := ⟨e.natAbs, by omega⟩
    have hsteps : ((num : Rat) / (1 : Nat) / 2 ^ (-(shift : Int))) = (num * 2 ^ shift : Nat) := by
      rw [Nat.cast_one, div_one, zpow_neg, div_inv_eq_mul, zpow_natCast]
      push_cast
      rfl
    rw [hsteps] at hnearest
    rw [hmagnitude, hnearest.eq_of_natCast, magnitude, zpow_neg, zpow_natCast]
    push_cast
    field_simp

theorem sign_mul_natAbs (n : Int) : sign (n < 0) * n.natAbs = n := by
  rw [Nat.cast_natAbs, Int.cast_abs]
  rcases Int.lt_or_le n 0 with hneg | hpos
  · have hcast : (n : Rat) < 0 := by exact_mod_cast hneg
    simp [sign, hneg, abs_of_neg hcast]
  · have hcast : (0 : Rat) ≤ n := by exact_mod_cast hpos
    simp [sign, Int.not_lt.mpr hpos, abs_of_nonneg hcast]

theorem toRat?_ofInt {n : Int} (h : n.natAbs < 2 ^ 53) : (ofInt n).toRat? = some (n : Rat) := by
  obtain ⟨m, q, hdecode, hmagnitude⟩ := decode_ofInt h
  rw [toRat?_of_decode hdecode, hmagnitude, sign_mul_natAbs]

theorem divNat_rounds {x : Binary64} {negative : Bool} {m : Nat} {q : Int}
    (hdecode : x.decode = .finite negative m q) {den : Nat} (hden : 0 < den) {bound : Int}
    (hlow : minExponent ≤ bound) (hhigh : bound ≤ 970)
    (h : magnitude m q / den < 2 ^ (bound + 53)) :
    ∃ m' q', (x.divNat den).decode = .finite negative m' q' ∧
      RoundsTo (sign negative * (magnitude m q / den)) (x.divNat den) ∧
      |magnitude m q / den - magnitude m' q'| ≤ 2 ^ bound / 2 := by
  rw [magnitude] at h ⊢
  simp only [divNat, hdecode]
  split
  · rename_i hup
    have hratio : ((m <<< q.toNat : Nat) : Rat) / den = m * 2 ^ q / den := by
      rw [natCast_shiftLeft, zpow_toNat hup]
    rw [← hratio] at h ⊢
    exact ofRatio_rounds negative _ hden hlow hhigh h
  · rename_i hdown
    have hratio : (m : Rat) / (den <<< (-q).toNat : Nat) = m * 2 ^ q / den := by
      rw [natCast_shiftLeft, zpow_neg_toNat hdown]
      field_simp
    have hshifted : 0 < den <<< (-q).toNat := by
      rw [Nat.shiftLeft_eq]
      positivity
    rw [← hratio] at h ⊢
    exact ofRatio_rounds negative _ hshifted hlow hhigh h

end Binary64

end LogShipping
