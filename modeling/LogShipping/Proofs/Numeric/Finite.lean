import LogShipping.Numeric.NumberText
import LogShipping.Time.Moment
import Mathlib.Algebra.Ring.Nat

namespace LogShipping

namespace Binary64

private theorem roundDiv_le (num den : Nat) : roundDiv num den ≤ num / den + 1 := by
  unfold roundDiv
  simp only
  split
  · omega
  · split
    · omega
    · split <;> omega

private theorem roundDiv_le_of_lt {num den bound : Nat} (h : num < bound * den) :
    roundDiv num den ≤ bound := by
  have hdiv : num / den < bound := Nat.div_lt_of_lt_mul (by rwa [Nat.mul_comm])
  exact Nat.le_trans (roundDiv_le num den) hdiv

private theorem ratioLog2_bounds (num den : Nat) :
    (num.log2 : Int) - den.log2 - 1 ≤ ratioLog2 num den ∧
      ratioLog2 num den ≤ (num.log2 : Int) - den.log2 := by
  unfold ratioLog2
  simp only
  split <;> omega

def roundingExponent (num den : Nat) : Int :=
  max (ratioLog2 num den - fractionBits) minExponent

def roundedSignificand (num den : Nat) : Nat :=
  if 0 ≤ roundingExponent num den then
    roundDiv num (den <<< (roundingExponent num den).toNat)
  else roundDiv (num <<< (-roundingExponent num den).toNat) den

private theorem roundedSignificand_le (num : Nat) {den : Nat} (hden : 0 < den) :
    roundedSignificand num den ≤ 2 ^ 54 := by
  have hnum : num < 2 ^ (num.log2 + 1) := Nat.lt_log2_self
  have hpow : 2 ^ den.log2 ≤ den := Nat.log2_self_le (Nat.ne_of_gt hden)
  have hlog := (ratioLog2_bounds num den).1
  have hexponent : ratioLog2 num den - 52 ≤ roundingExponent num den := Int.le_max_left _ _
  unfold roundedSignificand
  split
  · rename_i hpos
    apply roundDiv_le_of_lt
    rw [Nat.shiftLeft_eq]
    generalize hshift : (roundingExponent num den).toNat = shift
    calc
      num < 2 ^ (num.log2 + 1) := hnum
      _ ≤ 2 ^ (54 + (den.log2 + shift)) := Nat.pow_le_pow_right (by decide) (by omega)
      _ = 2 ^ 54 * (2 ^ den.log2 * 2 ^ shift) := by rw [Nat.pow_add, Nat.pow_add]
      _ ≤ 2 ^ 54 * (den * 2 ^ shift) :=
          Nat.mul_le_mul_left _ (Nat.mul_le_mul_right _ hpow)
  · rename_i hneg
    apply roundDiv_le_of_lt
    rw [Nat.shiftLeft_eq]
    generalize hshift : (-roundingExponent num den).toNat = shift
    calc
      num * 2 ^ shift < 2 ^ (num.log2 + 1) * 2 ^ shift :=
          Nat.mul_lt_mul_of_pos_right hnum (Nat.two_pow_pos shift)
      _ = 2 ^ (num.log2 + 1 + shift) := by rw [← Nat.pow_add]
      _ ≤ 2 ^ (54 + den.log2) := Nat.pow_le_pow_right (by decide) (by omega)
      _ = 2 ^ 54 * 2 ^ den.log2 := Nat.pow_add 2 54 _
      _ ≤ 2 ^ 54 * den := Nat.mul_le_mul_left _ hpow

def roundedMagnitude (num den : Nat) : Nat :=
  if num = 0 then 0
  else
    min (roundedSignificand num den + (roundingExponent num den - minExponent).toNat * hiddenBit)
      (2047 * hiddenBit)

theorem ofRatio_eq (negative : Bool) (num den : Nat) :
    ofRatio negative num den =
      ⟨UInt64.ofNat (roundedMagnitude num den + if negative then signBit else 0)⟩ := rfl

theorem roundedMagnitude_le (num : Nat) {den : Nat} (hden : 0 < den) :
    roundedMagnitude num den ≤ (num.log2 + 1026) * hiddenBit := by
  unfold roundedMagnitude
  split
  · exact Nat.zero_le _
  · have hsignificand := roundedSignificand_le num hden
    have hlog := (ratioLog2_bounds num den).2
    have hexponent : (roundingExponent num den - minExponent).toNat ≤ num.log2 + 1022 := by
      simp only [roundingExponent, fractionBits, minExponent]
      omega
    have hscaled := Nat.mul_le_mul_right hiddenBit hexponent
    have hfour : 2 ^ 54 = 4 * hiddenBit := by decide
    rw [Nat.add_mul] at hscaled ⊢
    omega

private theorem roundedMagnitude_le_infinite (num den : Nat) :
    roundedMagnitude num den ≤ 2047 * hiddenBit := by
  unfold roundedMagnitude
  split
  · exact Nat.zero_le _
  · exact Nat.min_le_right _ _

theorem toNat_word (negative : Bool) {word : Nat} (h : word ≤ 2047 * hiddenBit) :
    (UInt64.ofNat (word + if negative then signBit else 0)).toNat =
      word + if negative then signBit else 0 := by
  apply UInt64.toNat_ofNat_of_lt
  simp only [hiddenBit, signBit, UInt64.size] at h ⊢
  split <;> omega

private theorem exponentField_ofRatio (negative : Bool) (num den : Nat) :
    (ofRatio negative num den).exponentField = roundedMagnitude num den / hiddenBit := by
  have hcapped := roundedMagnitude_le_infinite num den
  rw [ofRatio_eq, exponentField, toNat_word negative hcapped]
  simp only [hiddenBit, signBit] at hcapped ⊢
  split <;> omega

theorem exponentField_ofRatio_le (negative : Bool) {num den bound : Nat} (hden : 0 < den)
    (h : num < 2 ^ bound) : (ofRatio negative num den).exponentField ≤ bound + 1026 := by
  have hlog : num.log2 ≤ bound := by
    by_cases hzero : num = 0
    · simp [hzero]
    · exact Nat.le_of_lt ((Nat.log2_lt hzero).mpr h)
  rw [exponentField_ofRatio]
  apply Nat.div_le_of_le_mul
  rw [Nat.mul_comm]
  exact Nat.le_trans (roundedMagnitude_le num hden) (Nat.mul_le_mul_right _ (by omega))

private theorem decode_of_exponentField {x : Binary64} (h : x.exponentField ≠ 2047) :
    ∃ negative significand exponent, x.decode = .finite negative significand exponent ∧
      significand < 2 ^ 53 ∧ exponent + 1074 ≤ x.exponentField := by
  have hfraction : x.fractionField < hiddenBit := Nat.mod_lt _ (by decide)
  simp only [hiddenBit] at hfraction
  unfold decode
  rw [if_neg h]
  split
  · refine ⟨_, _, _, rfl, by omega, ?_⟩
    simp only [minExponent]
    omega
  · refine ⟨_, _, _, rfl, ?_, ?_⟩
    · simp only [hiddenBit]
      omega
    · simp only [minExponent]
      omega

theorem exponentField_divNat_le {x : Binary64} {den : Nat} (hden : 0 < den)
    (h : x.exponentField ≠ 2047) :
    (x.divNat den).exponentField ≤ max (x.exponentField + 5) 1079 := by
  obtain ⟨negative, significand, exponent, hdecode, hsignificand, hexponent⟩ :=
    decode_of_exponentField h
  simp only [divNat, hdecode]
  split
  · rename_i hpos
    have hshifted : significand <<< exponent.toNat < 2 ^ (53 + exponent.toNat) := by
      rw [Nat.shiftLeft_eq, Nat.pow_add]
      exact Nat.mul_lt_mul_of_pos_right hsignificand (Nat.two_pow_pos _)
    have hfield := exponentField_ofRatio_le negative hden hshifted
    omega
  · have hpos : 0 < den <<< (-exponent).toNat := by
      rw [Nat.shiftLeft_eq]
      exact Nat.mul_pos hden (Nat.two_pow_pos _)
    have hfield := exponentField_ofRatio_le negative hpos hsignificand
    omega

end Binary64

theorem NumberStyle.finite?_of_exponentField (style : NumberStyle) {x : Binary64}
    (h : x.exponentField ≠ 2047) : ∃ token, style.finite? x = some token := by
  obtain ⟨negative, significand, exponent, hdecode, -, -⟩ := Binary64.decode_of_exponentField h
  simp [finite?, hdecode]

/-- The moments that a calendar date can have. -/
structure Moment.InSpan (t : Moment) : Prop where
  first : -8334601228800 ≤ t.seconds
  last : t.seconds ≤ 8210266876799
  nanos : t.nanos < 2000000000

theorem Moment.InSpan.natAbs_millis_lt {t : Moment} (h : t.InSpan) : t.millis.natAbs < 2 ^ 53 := by
  obtain ⟨hfirst, hlast, hnanos⟩ := h
  unfold millis
  omega

end LogShipping
