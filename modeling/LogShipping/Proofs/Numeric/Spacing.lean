import LogShipping.Numeric.Binary64
import Mathlib.Algebra.Order.Field.Power
import Mathlib.Tactic.Linarith
import Mathlib.Tactic.Positivity
import Mathlib.Tactic.Ring

/-!
The doubles on the line of rationals. Every magnitude is written in one way with a significand that
is as long as the exponent allows, and from one magnitude to the next there is a known distance. So
what is nearer to a double than half that distance is rounded to it.
-/

namespace LogShipping

namespace Binary64

/-- The significand uses all its bits, unless the exponent is the smallest. -/
structure Canonical (significand : Nat) (exponent : Int) : Prop where
  short : significand < 2 * hiddenBit
  low : minExponent ≤ exponent
  normal : minExponent < exponent → hiddenBit ≤ significand

def magnitude (significand : Nat) (exponent : Int) : Rat :=
  significand * 2 ^ exponent

def gapDown (significand : Nat) (exponent : Int) : Rat :=
  if significand = hiddenBit ∧ minExponent < exponent then 2 ^ exponent / 2 else 2 ^ exponent

theorem gapDown_pos (m : Nat) (q : Int) : 0 < gapDown m q := by
  unfold gapDown
  split <;> positivity

private theorem gapDown_le (m : Nat) (q : Int) : gapDown m q ≤ 2 ^ q := by
  have hpos : (0 : Rat) < 2 ^ q := by positivity
  unfold gapDown
  split <;> linarith

theorem canonical_of_decode {x : Binary64} {negative : Bool} {m : Nat} {q : Int}
    (h : x.decode = .finite negative m q) : Canonical m q := by
  have hfraction : x.fractionField < hiddenBit := Nat.mod_lt _ (by decide)
  unfold decode at h
  split at h
  · split at h <;> cases h
  · split at h
    · cases h
      exact ⟨by omega, Int.le_refl _, fun hlt => absurd hlt (Int.lt_irrefl _)⟩
    · cases h
      exact ⟨by omega, by simp only [minExponent]; omega, fun _ => Nat.le_add_left _ _⟩

private theorem magnitude_add_le {k m : Nat} (h : k < m) (q : Int) :
    magnitude k q + 2 ^ q ≤ magnitude m q := by
  have hpos : (0 : Rat) < 2 ^ q := by positivity
  have hstep : (k : Rat) + 1 ≤ m := by exact_mod_cast h
  calc
    magnitude k q + 2 ^ q = (k + 1) * 2 ^ q := by rw [magnitude]; ring
    _ ≤ m * 2 ^ q := mul_le_mul_of_nonneg_right hstep hpos.le

private theorem spacing_of_le (m m' : Nat) {q q' : Int} (hle : q ≤ q') :
    magnitude m' q' = magnitude m q ∨ magnitude m' q' + 2 ^ q ≤ magnitude m q ∨
      magnitude m q + 2 ^ q ≤ magnitude m' q' := by
  obtain ⟨shift, rfl⟩ : ∃ shift : Nat, q' = q + shift := ⟨(q' - q).toNat, by omega⟩
  have hscaled : magnitude m' (q + shift) = magnitude (m' * 2 ^ shift) q := by
    rw [magnitude, magnitude, zpow_add₀ (by norm_num), zpow_natCast]
    push_cast
    ring
  rw [hscaled]
  rcases Nat.lt_trichotomy (m' * 2 ^ shift) m with hlt | heq | hgt
  · exact .inr (.inl (magnitude_add_le hlt q))
  · exact .inl (by rw [heq])
  · exact .inr (.inr (magnitude_add_le hgt q))

private theorem spacing_of_lt {m m' : Nat} {q q' : Int} (h : Canonical m q) (h' : Canonical m' q')
    (hlt : q' < q) : magnitude m' q' + gapDown m q ≤ magnitude m q := by
  have hnormal : minExponent < q := Int.lt_of_le_of_lt h'.low hlt
  have hhidden := h.normal hnormal
  have hpos : (0 : Rat) < 2 ^ q := by positivity
  have hshort : (m' : Rat) + 1 ≤ 2 * (hiddenBit : Nat) := by exact_mod_cast h'.short
  have hstep : (2 : Rat) ^ q' ≤ 2 ^ q / 2 := by
    have hexponent : (2 : Rat) ^ q' ≤ 2 ^ (q - 1) :=
      zpow_le_zpow_right₀ (by norm_num) (by omega)
    rwa [zpow_sub_one₀ (by norm_num), ← div_eq_mul_inv] at hexponent
  have hbelow : magnitude m' q' ≤ magnitude hiddenBit q - 2 ^ q / 2 := by
    calc
      magnitude m' q' ≤ m' * (2 ^ q / 2) :=
          mul_le_mul_of_nonneg_left hstep (Nat.cast_nonneg m')
      _ ≤ (2 * (hiddenBit : Nat) - 1) * (2 ^ q / 2) :=
          mul_le_mul_of_nonneg_right (by linarith) (by positivity)
      _ = magnitude hiddenBit q - 2 ^ q / 2 := by rw [magnitude]; ring
  unfold gapDown
  split
  · rename_i hbottom
    rw [hbottom.1]
    linarith
  · rename_i hinner
    have hne : m ≠ hiddenBit := fun heq => hinner ⟨heq, hnormal⟩
    have habove := magnitude_add_le (Nat.lt_of_le_of_ne hhidden (Ne.symm hne)) q
    linarith

private theorem spacing {m m' : Nat} {q q' : Int} (h : Canonical m q) (h' : Canonical m' q') :
    magnitude m' q' = magnitude m q ∨ magnitude m' q' + gapDown m q ≤ magnitude m q ∨
      magnitude m q + 2 ^ q ≤ magnitude m' q' := by
  have hgap := gapDown_le m q
  rcases Int.lt_or_le q' q with hlt | hle
  · exact .inr (.inl (spacing_of_lt h h' hlt))
  · rcases spacing_of_le m m' hle with heq | hbelow | habove
    · exact .inl heq
    · exact .inr (.inl (by linarith))
    · exact .inr (.inr habove)

/-- The numbers that round to a magnitude: they reach halfway to the next one on either side, and the
midpoints go to the even significand. -/
structure Within (m : Nat) (q : Int) (t : Rat) : Prop where
  above : magnitude m q - gapDown m q / 2 ≤ t
  below : t ≤ magnitude m q + 2 ^ q / 2
  tie : t = magnitude m q - gapDown m q / 2 ∨ t = magnitude m q + 2 ^ q / 2 → m % 2 = 0

theorem Within.of_lt {m : Nat} {q : Int} {t : Rat} (habove : magnitude m q - gapDown m q / 2 < t)
    (hbelow : t < magnitude m q + 2 ^ q / 2) : Within m q t := by
  refine ⟨habove.le, hbelow.le, ?_⟩
  rintro (heq | heq)
  · exact absurd heq (ne_of_gt habove)
  · exact absurd heq (ne_of_lt hbelow)

/-- No other magnitude is nearer, and one that is as near has it at a midpoint. -/
theorem Within.nearest {m m' : Nat} {q q' : Int} {t : Rat} (ht : Within m q t)
    (h : Canonical m q) (h' : Canonical m' q') (hne : magnitude m' q' ≠ magnitude m q) :
    |t - magnitude m q| < |t - magnitude m' q'| ∨
      |t - magnitude m q| = |t - magnitude m' q'| ∧ m % 2 = 0 := by
  have hgap := gapDown_pos m q
  have hpos : (0 : Rat) < 2 ^ q := by positivity
  have habove := ht.above
  have hbelow := ht.below
  rcases spacing h h' with heq | hlow | hhigh
  · exact absurd heq hne
  · have hother : |t - magnitude m' q'| = t - magnitude m' q' := abs_of_pos (by linarith)
    have hle : |t - magnitude m q| ≤ t - magnitude m' q' :=
      abs_le.mpr ⟨by linarith, by linarith⟩
    rw [hother]
    rcases hle.lt_or_eq with hlt | heq
    · exact .inl hlt
    · refine .inr ⟨heq, ht.tie (.inl ?_)⟩
      rcases abs_choice (t - magnitude m q) with hright | hleft
      · linarith
      · linarith
  · have hother : |t - magnitude m' q'| = magnitude m' q' - t := by
      rw [abs_sub_comm]
      exact abs_of_pos (by linarith)
    have hle : |t - magnitude m q| ≤ magnitude m' q' - t :=
      abs_le.mpr ⟨by linarith, by linarith⟩
    rw [hother]
    rcases hle.lt_or_eq with hlt | heq
    · exact .inl hlt
    · refine .inr ⟨heq, ht.tie (.inr ?_)⟩
      rcases abs_choice (t - magnitude m q) with hright | hleft
      · linarith
      · linarith

theorem Within.pos {m : Nat} {q : Int} {t : Rat} (ht : Within m q t) (hm : 0 < m) : 0 < t := by
  have hpos : (0 : Rat) < 2 ^ q := by positivity
  have hone : (1 : Rat) ≤ m := by exact_mod_cast hm
  have hmagnitude : (2 : Rat) ^ q ≤ magnitude m q := le_mul_of_one_le_left hpos.le hone
  have hgap := gapDown_le m q
  have habove := ht.above
  linarith

def sign (negative : Bool) : Rat :=
  if negative then -1 else 1

theorem toRat?_of_decode {x : Binary64} {negative : Bool} {m : Nat} {q : Int}
    (h : x.decode = .finite negative m q) : x.toRat? = some (sign negative * magnitude m q) := by
  simp only [toRat?, h, sign, magnitude, mul_assoc]

private theorem exists_decode_of_toRat? {x : Binary64} {value : Rat} (h : x.toRat? = some value) :
    ∃ negative m q, x.decode = .finite negative m q ∧ value = sign negative * magnitude m q := by
  cases hdecode : x.decode with
  | finite negative m q =>
      rw [toRat?_of_decode hdecode, Option.some.injEq] at h
      exact ⟨negative, m, q, rfl, h.symm⟩
  | infinite negative => simp [toRat?, hdecode] at h
  | nan => simp [toRat?, hdecode] at h

theorem negative_of_decode {x : Binary64} {negative : Bool} {m : Nat} {q : Int}
    (h : x.decode = .finite negative m q) : x.negative = negative := by
  unfold decode at h
  split at h
  · split at h <;> cases h
  · split at h
    · cases h
      rfl
    · cases h
      rfl

private theorem fractionField_mod_two {x : Binary64} {negative : Bool} {m : Nat} {q : Int}
    (h : x.decode = .finite negative m q) : x.fractionField % 2 = m % 2 := by
  unfold decode at h
  split at h
  · split at h <;> cases h
  · split at h
    · cases h
      rfl
    · cases h
      simp only [hiddenBit]
      omega

/-- The double `x` is what `v` rounds to: no other is nearer to `v`, and of two that are as near it
is the one with the even significand. -/
def RoundsTo (v : Rat) (x : Binary64) : Prop :=
  ∃ value, x.toRat? = some value ∧
    ∀ (y : Binary64) (other : Rat), y.toRat? = some other → other ≠ value →
      |v - value| < |v - other| ∨ |v - value| = |v - other| ∧ x.fractionField % 2 = 0

theorem abs_sign_sub (negative : Bool) (s t : Rat) :
    |sign negative * s - sign negative * t| = |s - t| := by
  cases negative with
  | false => simp [sign]
  | true =>
      rw [sign, if_pos rfl, ← mul_sub, abs_mul]
      simp

private theorem abs_sub_of_sign_ne {negative negative' : Bool} (hne : negative' ≠ negative)
    {s t : Rat} (hs : 0 ≤ s) (ht : 0 ≤ t) : |sign negative * s - sign negative' * t| = s + t := by
  cases negative with
  | false =>
      cases negative' with
      | false => exact absurd rfl hne
      | true =>
          have hsum : sign false * s - sign true * t = s + t := by
            simp [sign]
          rw [hsum, abs_of_nonneg (by linarith)]
  | true =>
      cases negative' with
      | true => exact absurd rfl hne
      | false =>
          have hsum : sign true * s - sign false * t = -(s + t) := by
            simp [sign]
            ring
          rw [hsum, abs_neg, abs_of_nonneg (by linarith)]

private theorem canonical_zero : Canonical 0 minExponent :=
  ⟨by decide, Int.le_refl _, fun hlt => absurd hlt (Int.lt_irrefl _)⟩

theorem magnitude_zero (q : Int) : magnitude 0 q = 0 := by
  simp [magnitude]

private theorem magnitude_nonneg (m : Nat) (q : Int) : 0 ≤ magnitude m q := by
  unfold magnitude
  positivity

theorem Within.roundsTo {x : Binary64} {negative : Bool} {m : Nat} {q : Int} {t : Rat}
    (ht : Within m q t) (hdecode : x.decode = .finite negative m q) (hnonneg : 0 ≤ t) :
    RoundsTo (sign negative * t) x := by
  have h := canonical_of_decode hdecode
  refine ⟨sign negative * magnitude m q, toRat?_of_decode hdecode, ?_⟩
  intro y other hy hne
  obtain ⟨negative', m', q', hdecode', rfl⟩ := exists_decode_of_toRat? hy
  have h' := canonical_of_decode hdecode'
  rw [fractionField_mod_two hdecode, abs_sign_sub]
  by_cases hsign : negative' = negative
  · subst hsign
    rw [abs_sign_sub]
    apply ht.nearest h h'
    intro heq
    exact hne (by rw [heq])
  · -- Between magnitudes of different signs lies zero, which is at most as far away.
    have hother := magnitude_nonneg m' q'
    rw [abs_sub_of_sign_ne hsign hnonneg hother]
    by_cases hzero : magnitude m q = 0
    · have hpos : magnitude m' q' ≠ 0 := by
        intro heq
        exact hne (by rw [heq, hzero, mul_zero, mul_zero])
      left
      rw [hzero, sub_zero, abs_of_nonneg hnonneg]
      exact lt_add_of_pos_right t (lt_of_le_of_ne hother (Ne.symm hpos))
    · have hnearest := ht.nearest h canonical_zero (by
        rw [magnitude_zero]
        exact Ne.symm hzero)
      rw [magnitude_zero, sub_zero, abs_of_nonneg hnonneg] at hnearest
      rcases hnearest with hlt | ⟨heq, heven⟩
      · left
        linarith
      · rcases hother.lt_or_eq with hpos | hnone
        · left
          linarith
        · right
          exact ⟨by linarith, heven⟩

end Binary64

end LogShipping
