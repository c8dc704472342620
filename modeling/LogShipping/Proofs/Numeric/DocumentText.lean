import LogShipping.Numeric.NumberText
import LogShipping.Proofs.Json.NumberToken
import LogShipping.Proofs.Numeric.Shortest

namespace LogShipping

open Json

namespace NumberStyle

/-- What digits stand for when the first one counts `10 ^ first`. -/
def placedValue (digits : List Char) (first : Int) : Rat :=
  Nat.ofDigitChars 10 digits 0 * 10 ^ (first + 1 - digits.length)

private theorem placedValue_digits (d : Decimal) :
    placedValue d.digits d.leadingExponent = d.value := by
  have hexponent : d.leadingExponent + 1 - d.digits.length = d.exponent := by
    simp only [Decimal.leadingExponent]
    omega
  rw [placedValue, hexponent, Decimal.digits, ofDigitChars_decimalDigits, Decimal.value]

/-- Zeros after the digits are made up for by the power of ten. -/
theorem partsValue_eq {whole fraction exponent : List Char} (digits : List Char) (first : Int)
    (zeros : Nat)
    (hdigits : Nat.ofDigitChars 10 (whole ++ fraction.tail) 0 =
      10 ^ zeros * Nat.ofDigitChars 10 digits 0)
    (hpower : powerOf exponent - fraction.tail.length + zeros = first + 1 - digits.length) :
    partsValue whole fraction exponent = placedValue digits first := by
  rw [partsValue, placedValue, hdigits, ← hpower, zpow_add₀ (by norm_num), zpow_natCast]
  push_cast
  ring

private theorem all_isDigit_zeros (count : Nat) :
    ∀ c ∈ List.replicate count '0', isDigit c = true := by
  intro c hmem
  rw [List.eq_of_mem_replicate hmem]
  decide

private theorem isUnsigned_belowOne {digits : List Char} {first : Int} (hdigits : IsDigits digits)
    (hfirst : first < 0) :
    IsUnsigned ('0' :: '.' :: (List.replicate (-first - 1).toNat '0' ++ digits))
      (placedValue digits first) := by
  have hfraction : IsDigits (List.replicate (-first - 1).toNat '0' ++ digits) := by
    refine ⟨by simp [hdigits.ne_nil], ?_⟩
    intro c hmem
    rcases List.mem_append.mp hmem with hpad | hdigit
    · exact all_isDigit_zeros _ c hpad
    · exact hdigits.all c hdigit
  have hparts := IsUnsigned.parts .zero (.point hfraction) .absent
  rw [partsValue_eq digits first 0] at hparts
  · simpa using hparts
  · simp [Nat.ofDigitChars_cons, Nat.ofDigitChars_append]
  · simp only [powerOf, List.tail_cons, List.length_append, List.length_replicate]
    omega

private theorem isUnsigned_padded {digits : List Char} {first : Int} (hdigits : IsWhole digits)
    (hzero : digits = ['0'] → first = 0) (hfirst : 0 ≤ first)
    (hshort : digits.length ≤ first.toNat + 1) :
    IsUnsigned (digits ++ List.replicate (first.toNat + 1 - digits.length) '0' ++ ['.', '0'])
      (placedValue digits first) := by
  have hwhole : IsWhole (digits ++ List.replicate (first.toNat + 1 - digits.length) '0') := by
    cases hdigits with
    | zero =>
        rw [hzero rfl]
        exact .zero
    | @leading c rest hleading hnonzero hrest =>
        apply IsWhole.leading hleading hnonzero
        intro d hmem
        rcases List.mem_append.mp hmem with hdigit | hpad
        · exact hrest d hdigit
        · exact all_isDigit_zeros _ d hpad
  have hparts := IsUnsigned.parts hwhole (.point isDigits_zero) .absent
  rw [partsValue_eq digits first (first.toNat + 1 - digits.length + 1)] at hparts
  · simpa using hparts
  · simp [Nat.ofDigitChars_cons, Nat.ofDigitChars_append, Nat.pow_succ]
    ring
  · simp only [powerOf, List.tail_cons, List.length_cons, List.length_nil]
    omega

private theorem isUnsigned_split {digits : List Char} {first : Int} (hdigits : IsWhole digits)
    (hfirst : 0 ≤ first) (hlong : first.toNat + 1 < digits.length) :
    IsUnsigned (digits.take (first.toNat + 1) ++ '.' :: digits.drop (first.toNat + 1))
      (placedValue digits first) := by
  cases hdigits with
  | zero => simp at hlong
  | @leading c rest hleading hnonzero hrest =>
      have hwhole : IsWhole (c :: rest.take first.toNat) := by
        apply IsWhole.leading hleading hnonzero
        intro d hmem
        exact hrest d (List.mem_of_mem_take hmem)
      have hfraction : IsDigits (rest.drop first.toNat) := by
        refine ⟨?_, ?_⟩
        · intro hnil
          rw [List.drop_eq_nil_iff] at hnil
          simp only [List.length_cons] at hlong
          omega
        · intro d hmem
          exact hrest d (List.mem_of_mem_drop hmem)
      have hparts := IsUnsigned.parts hwhole (.point hfraction) .absent
      rw [partsValue_eq (c :: rest) first 0] at hparts
      · simpa using hparts
      · simp
      · simp only [powerOf, List.tail_cons, List.length_cons, List.length_drop] at hlong ⊢
        omega

private theorem isUnsigned_plain {digits : List Char} {first : Int} (hdigits : IsWhole digits)
    (hzero : digits = ['0'] → first = 0) :
    IsUnsigned (document.plain digits first) (placedValue digits first) := by
  unfold plain
  split
  · rename_i hfirst
    exact isUnsigned_belowOne hdigits.isDigits hfirst
  · rename_i hfirst
    simp only
    split
    · rename_i hshort
      exact isUnsigned_padded hdigits hzero (Int.not_lt.mp hfirst) hshort
    · rename_i hlong
      exact isUnsigned_split hdigits (Int.not_lt.mp hfirst) (Nat.not_le.mp hlong)

private theorem powerOf_exponent (first : Int) :
    powerOf ('e' :: (if first < 0 then '-' else '+') :: decimalDigits first.natAbs) = first := by
  split
  · rw [powerOf, ofDigitChars_decimalDigits]
    omega
  · rw [powerOf, ofDigitChars_decimalDigits]
    omega

private theorem isUnsigned_scientific {digits : List Char} (first : Int)
    (hdigits : IsWhole digits) : IsUnsigned (scientific digits first)
    (placedValue digits first) := by
  have hpower := powerOf_exponent first
  have hexponent : IsExponent
      ('e' :: (if first < 0 then '-' else '+') :: decimalDigits first.natAbs) := by
    apply IsExponent.power
    · split
      · exact .inr rfl
      · exact .inl rfl
    · exact isDigits_decimalDigits first.natAbs
  cases hdigits with
  | zero =>
      have hparts := IsUnsigned.parts .zero .absent hexponent
      rw [partsValue_eq ['0'] first 0] at hparts
      · exact hparts
      · simp
      · rw [hpower]
        simp
  | @leading c rest hfirst hnonzero hrest =>
      have hwhole : IsWhole [c] := .leading hfirst hnonzero (by simp)
      cases rest with
      | nil =>
          have hparts := IsUnsigned.parts hwhole .absent hexponent
          rw [partsValue_eq [c] first 0] at hparts
          · exact hparts
          · simp
          · rw [hpower]
            simp
      | cons d rest =>
          have hparts := IsUnsigned.parts hwhole (.point ⟨by simp, hrest⟩) hexponent
          rw [partsValue_eq (c :: d :: rest) first 0] at hparts
          · exact hparts
          · simp
          · rw [hpower]
            simp only [List.tail_cons, List.length_cons]
            omega

private theorem isUnsigned_magnitude {m : Nat} {q : Int} (h : Binary64.Canonical m q) :
    IsUnsigned (document.magnitude m q) (Shortest.ofBinary document.tie m q).value := by
  unfold magnitude
  simp only
  have hcases := Shortest.ofBinary_cases document.tie h
  generalize Shortest.ofBinary document.tie m q = d at hcases ⊢
  have hwhole : IsWhole d.digits := isWhole_decimalDigits d.significand
  rw [← placedValue_digits]
  split
  · apply isUnsigned_plain hwhole
    intro hzero
    have hpower : d.exponent = 0 := by
      rcases hcases with hpos | hexponent
      · obtain ⟨c, rest, hdigits, hne⟩ := decimalDigits_leading hpos
        rw [Decimal.digits, hdigits] at hzero
        exact absurd (List.cons.inj hzero).1 hne
      · exact hexponent
    simp [Decimal.leadingExponent, hzero, hpower]
  · exact isUnsigned_scientific d.leadingExponent hwhole

private theorem finite?_eq_some {style : NumberStyle} {x : Binary64} {token : List Char}
    (h : style.finite? x = some token) : ∃ negative m q, x.decode = .finite negative m q ∧
      token = if negative then '-' :: style.magnitude m q else style.magnitude m q := by
  unfold finite? at h
  split at h
  · rename_i negative m q hdecode
    exact ⟨negative, m, q, hdecode, (Option.some.inj h).symm⟩
  · cases h

theorem denotes_of_finite? {x : Binary64} {token : List Char}
    (h : document.finite? x = some token) : ∃ v, Denotes token v ∧ Binary64.RoundsTo v x := by
  obtain ⟨negative, m, q, hdecode, rfl⟩ := finite?_eq_some h
  have hcanonical := Binary64.canonical_of_decode hdecode
  have hunsigned := isUnsigned_magnitude hcanonical
  have hrounds := (Shortest.within_ofBinary document.tie hcanonical).roundsTo hdecode
    (Decimal.value_nonneg _)
  refine ⟨_, ?_, hrounds⟩
  cases negative with
  | false => simpa [Binary64.sign] using Denotes.positive hunsigned
  | true => simpa [Binary64.sign] using Denotes.negative hunsigned

theorem signed_of_finite? {x : Binary64} {token : List Char}
    (h : document.finite? x = some token) : token.head? = some '-' ↔ x.negative = true := by
  obtain ⟨negative, m, q, hdecode, rfl⟩ := finite?_eq_some h
  have hunsigned := isUnsigned_magnitude (Binary64.canonical_of_decode hdecode)
  obtain ⟨c, rest, htext, hminus⟩ := hunsigned.not_minus
  rw [Binary64.negative_of_decode hdecode, htext]
  cases negative with
  | false => simp [hminus]
  | true => simp

private theorem marked_plain (digits : List Char) (first : Int) :
    '.' ∈ document.plain digits first := by
  unfold plain
  split
  · simp
  · simp only
    split
    · simp [document]
    · simp

private theorem marked_magnitude (m : Nat) (q : Int) :
    '.' ∈ document.magnitude m q ∨ 'e' ∈ document.magnitude m q := by
  unfold magnitude
  simp only
  split
  · exact .inl (marked_plain _ _)
  · right
    simp [scientific]

theorem marked_of_finite? {x : Binary64} {token : List Char}
    (h : document.finite? x = some token) : '.' ∈ token ∨ 'e' ∈ token := by
  obtain ⟨negative, m, q, -, rfl⟩ := finite?_eq_some h
  have hmarked := marked_magnitude m q
  cases negative with
  | false => exact hmarked
  | true => simpa using hmarked

end NumberStyle

end LogShipping
