import LogShipping.Json.Reader
import Mathlib.Algebra.Order.Field.Power

namespace LogShipping

namespace Json

private theorem isDigit_digitChar (n : Nat) : isDigit (digitChar n) = true := by
  have hall : ∀ d < 10, isDigit (Char.ofNat ('0'.toNat + d)) = true := by decide
  exact hall (n % 10) (Nat.mod_lt n (by decide))

private theorem toNat_digitChar (n : Nat) : (digitChar n).toNat - '0'.toNat = n % 10 := by
  have hall : ∀ d < 10, (Char.ofNat ('0'.toNat + d)).toNat - '0'.toNat = d := by decide
  exact hall (n % 10) (Nat.mod_lt n (by decide))

private theorem digitChar_ne_zero {n : Nat} (h : 0 < n) (hlt : n < 10) : digitChar n ≠ '0' := by
  have hall : ∀ d < 10, 0 < d → digitChar d ≠ '0' := by decide
  exact hall n hlt h

structure IsDigits (s : List Char) : Prop where
  ne_nil : s ≠ []
  all : ∀ c ∈ s, isDigit c = true

inductive IsWhole : List Char → Prop
  | zero : IsWhole ['0']
  | leading {c : Char} {rest : List Char} (first : isDigit c = true) (nonzero : c ≠ '0')
      (digits : ∀ d ∈ rest, isDigit d = true) : IsWhole (c :: rest)

inductive IsFraction : List Char → Prop
  | absent : IsFraction []
  | point {digits : List Char} (h : IsDigits digits) : IsFraction ('.' :: digits)

inductive IsExponent : List Char → Prop
  | absent : IsExponent []
  | power {sign : Char} {digits : List Char} (signed : sign = '+' ∨ sign = '-')
      (h : IsDigits digits) : IsExponent ('e' :: sign :: digits)

def powerOf : List Char → Int
  | _ :: '-' :: digits => -Nat.ofDigitChars 10 digits 0
  | _ :: '+' :: digits => Nat.ofDigitChars 10 digits 0
  | _ :: digits => Nat.ofDigitChars 10 digits 0
  | [] => 0

/-- The number that the parts of a token stand for together, the fraction with its point. -/
def partsValue (whole fraction exponent : List Char) : Rat :=
  Nat.ofDigitChars 10 (whole ++ fraction.tail) 0 * 10 ^ (powerOf exponent - fraction.tail.length)

inductive IsUnsigned : List Char → Rat → Prop
  | parts {whole fraction exponent : List Char} (hwhole : IsWhole whole)
      (hfraction : IsFraction fraction) (hexponent : IsExponent exponent) :
      IsUnsigned (whole ++ fraction ++ exponent) (partsValue whole fraction exponent)

/-- A token of the grammar with the number that it stands for. -/
inductive Denotes : List Char → Rat → Prop
  | positive {token : List Char} {v : Rat} (h : IsUnsigned token v) : Denotes token v
  | negative {token : List Char} {v : Rat} (h : IsUnsigned token v) : Denotes ('-' :: token) (-v)

def valueOf? (token : List Char) : Option Rat := do
  let (negative, s) := match token with
    | '-' :: rest => (true, rest)
    | s => (false, s)
  let (whole, s) ← readWhole s
  let (fraction, s) ← readFraction s
  let (exponent, s) ← readExponent s
  let value := partsValue whole fraction exponent
  if s.isEmpty then some (if negative then -value else value) else none

theorem isDigits_zero : IsDigits ['0'] := by
  refine ⟨by simp, ?_⟩
  intro c hmem
  rw [List.mem_singleton.mp hmem]
  rfl

private theorem IsDigits.append {s t : List Char} (hs : IsDigits s)
    (ht : ∀ c ∈ t, isDigit c = true) : IsDigits (s ++ t) := by
  refine ⟨by simp [hs.ne_nil], ?_⟩
  intro c hmem
  rcases List.mem_append.mp hmem with hleft | hright
  · exact hs.all c hleft
  · exact ht c hright

theorem isDigits_decimalDigits (n : Nat) : IsDigits (decimalDigits n) := by
  induction n using decimalDigits.induct with
  | case1 n hlt =>
      rw [decimalDigits_of_lt hlt]
      refine ⟨by simp, ?_⟩
      intro c hmem
      rw [List.mem_singleton.mp hmem]
      exact isDigit_digitChar n
  | case2 n hge ih =>
      rw [decimalDigits_of_ge (Nat.le_of_not_lt hge)]
      apply ih.append
      intro c hmem
      rw [List.mem_singleton.mp hmem]
      exact isDigit_digitChar n

theorem decimalDigits_leading {n : Nat} (h : 0 < n) :
    ∃ c rest, decimalDigits n = c :: rest ∧ c ≠ '0' := by
  induction n using decimalDigits.induct with
  | case1 n hlt => exact ⟨digitChar n, [], decimalDigits_of_lt hlt, digitChar_ne_zero h hlt⟩
  | case2 n hge ih =>
      have hten : 10 ≤ n := Nat.le_of_not_lt hge
      obtain ⟨c, rest, hdigits, hne⟩ := ih (by omega)
      exact ⟨c, rest ++ [digitChar n], by rw [decimalDigits_of_ge hten, hdigits]; rfl, hne⟩

private theorem isWhole_of_leading {c : Char} {rest : List Char} (h : IsDigits (c :: rest))
    (hne : c ≠ '0') : IsWhole (c :: rest) := by
  apply IsWhole.leading
  · exact h.all c (by simp)
  · exact hne
  · intro d hmem
    exact h.all d (by simp [hmem])

theorem isWhole_decimalDigits (n : Nat) : IsWhole (decimalDigits n) := by
  by_cases hpos : 0 < n
  · obtain ⟨c, rest, hdigits, hne⟩ := decimalDigits_leading hpos
    have hall := isDigits_decimalDigits n
    rw [hdigits] at hall ⊢
    exact isWhole_of_leading hall hne
  · have hzero : n = 0 := by omega
    subst hzero
    rw [decimalDigits_of_lt (by decide)]
    exact .zero

/-- The number that a row of digits stands for, with a sign before it or not. -/
def wholeOf? (token : List Char) : Option Int :=
  match token with
  | '-' :: digits => if digits.all isDigit then some (-Nat.ofDigitChars 10 digits 0) else none
  | digits => if digits.all isDigit then some (Nat.ofDigitChars 10 digits 0) else none

theorem ofDigitChars_decimalDigits (n : Nat) : Nat.ofDigitChars 10 (decimalDigits n) 0 = n := by
  induction n using decimalDigits.induct with
  | case1 n hlt =>
      rw [decimalDigits_of_lt hlt, Nat.ofDigitChars_cons, Nat.ofDigitChars_nil, toNat_digitChar]
      omega
  | case2 n hge ih =>
      rw [decimalDigits_of_ge (Nat.le_of_not_lt hge), Nat.ofDigitChars_append, ih,
        Nat.ofDigitChars_cons, Nat.ofDigitChars_nil, toNat_digitChar]
      omega

private theorem wholeOf?_of_isDigits {digits : List Char} (h : IsDigits digits) :
    wholeOf? digits = some (Nat.ofDigitChars 10 digits 0) := by
  have hall : digits.all isDigit = true := List.all_eq_true.mpr h.all
  unfold wholeOf?
  split
  · have hminus := h.all '-' (by simp)
    cases hminus
  · simp [hall]

theorem wholeOf?_signedDigits (n : Int) : wholeOf? (signedDigits n) = some n := by
  have hdigits := isDigits_decimalDigits n.natAbs
  unfold signedDigits
  by_cases hneg : n < 0
  · have hall : (decimalDigits n.natAbs).all isDigit = true := List.all_eq_true.mpr hdigits.all
    simp only [hneg, if_true, wholeOf?, hall, ofDigitChars_decimalDigits, Option.some.injEq]
    omega
  · rw [if_neg hneg, wholeOf?_of_isDigits hdigits, ofDigitChars_decimalDigits]
    exact congrArg some (by omega)

theorem wholeOf?_eq_none {token : List Char} (h : '.' ∈ token ∨ 'e' ∈ token) :
    wholeOf? token = none := by
  have hnot : ∀ digits : List Char, '.' ∈ digits ∨ 'e' ∈ digits → ¬ digits.all isDigit := by
    intro digits hmem hall
    rw [List.all_eq_true] at hall
    rcases hmem with hpoint | hpower
    · cases hall '.' hpoint
    · cases hall 'e' hpower
  unfold wholeOf?
  split
  · rename_i digits
    have hdigits : '.' ∈ digits ∨ 'e' ∈ digits := by simpa using h
    rw [if_neg (hnot digits hdigits)]
  · rw [if_neg (hnot token h)]

private theorem isUnsigned_decimalDigits (n : Nat) : IsUnsigned (decimalDigits n) n := by
  have hparts := IsUnsigned.parts (isWhole_decimalDigits n) .absent .absent
  simpa [partsValue, powerOf, ofDigitChars_decimalDigits] using hparts

theorem denotes_signedDigits (n : Int) : Denotes (signedDigits n) n := by
  have hdigits := isUnsigned_decimalDigits n.natAbs
  unfold signedDigits
  split
  · rename_i hneg
    have hvalue : (n : Rat) = -((n.natAbs : Nat) : Rat) := by
      rw [← Rat.intCast_natCast, ← Rat.intCast_neg]
      exact congrArg _ (by omega)
    rw [hvalue]
    exact .negative hdigits
  · rename_i hpos
    have hvalue : (n : Rat) = ((n.natAbs : Nat) : Rat) := by
      rw [← Rat.intCast_natCast]
      exact congrArg _ (by omega)
    rw [hvalue]
    exact .positive hdigits

/-- What comes next does not continue a number. -/
def Stops (rest : List Char) : Prop :=
  ∀ c ∈ rest.head?, isDigit c = false ∧ c ≠ '.' ∧ c ≠ 'e' ∧ c ≠ 'E'

private theorem readDigits_append {digits rest : List Char} (h : IsDigits digits)
    (hrest : ∀ c ∈ rest.head?, isDigit c = false) :
    readDigits (digits ++ rest) = some (digits, rest) := by
  have htake : (digits ++ rest).takeWhile isDigit = digits := by
    rw [List.takeWhile_append_of_pos h.all]
    cases rest with
    | nil => simp
    | cons c rest => simp [hrest c (by simp)]
  have hdrop : (digits ++ rest).dropWhile isDigit = rest := by
    rw [List.dropWhile_append_of_pos h.all]
    cases rest with
    | nil => simp
    | cons c rest => simp [hrest c (by simp)]
  unfold readDigits
  rw [htake, hdrop]
  cases digits with
  | nil => exact absurd rfl h.ne_nil
  | cons c digits => rfl

theorem IsWhole.isDigits {whole : List Char} (h : IsWhole whole) : IsDigits whole := by
  cases h with
  | zero => exact isDigits_zero
  | leading first nonzero digits =>
      refine ⟨by simp, ?_⟩
      intro d hmem
      rcases List.mem_cons.mp hmem with rfl | hrest
      · exact first
      · exact digits d hrest

private theorem readWhole_append {whole rest : List Char} (h : IsWhole whole)
    (hrest : ∀ c ∈ rest.head?, isDigit c = false) :
    readWhole (whole ++ rest) = some (whole, rest) := by
  unfold readWhole
  rw [readDigits_append h.isDigits hrest]
  cases h with
  | zero => rfl
  | leading first nonzero digits =>
      split
      · rename_i hzero
        simp only [Option.some.injEq, Prod.mk.injEq, List.cons.injEq] at hzero
        exact absurd hzero.1.1 nonzero
      · rfl

private theorem readFraction_append {fraction rest : List Char} (h : IsFraction fraction)
    (hrest : ∀ c ∈ rest.head?, isDigit c = false ∧ c ≠ '.') :
    readFraction (fraction ++ rest) = some (fraction, rest) := by
  cases h with
  | absent =>
      cases rest with
      | nil => rfl
      | cons c rest =>
          have hpoint : c ≠ '.' := (hrest c (by simp)).2
          simp [readFraction, hpoint]
  | point hdigits =>
      have hread := readDigits_append hdigits fun c hmem => (hrest c hmem).1
      simp [readFraction, hread]

private theorem readExponent_append {exponent rest : List Char} (h : IsExponent exponent)
    (hrest : Stops rest) : readExponent (exponent ++ rest) = some (exponent, rest) := by
  cases h with
  | absent =>
      cases rest with
      | nil => rfl
      | cons c rest =>
          obtain ⟨-, -, hlower, hupper⟩ := hrest c (by simp)
          simp [readExponent, hlower, hupper]
  | power signed hdigits =>
      have hread := readDigits_append hdigits fun c hmem => (hrest c hmem).1
      rcases signed with rfl | rfl
      · simp [readExponent, readSign, hread]
      · simp [readExponent, readSign, hread]

private theorem Stops.exponent {exponent rest : List Char} (h : IsExponent exponent)
    (hrest : Stops rest) : ∀ c ∈ (exponent ++ rest).head?, isDigit c = false ∧ c ≠ '.' := by
  intro c hmem
  cases h with
  | absent => exact ⟨(hrest c hmem).1, (hrest c hmem).2.1⟩
  | power signed hdigits =>
      have hc : c = 'e' := by simpa using hmem.symm
      subst hc
      exact ⟨by decide, by decide⟩

private theorem Stops.fraction {fraction exponent rest : List Char} (h : IsFraction fraction)
    (hexponent : IsExponent exponent) (hrest : Stops rest) :
    ∀ c ∈ (fraction ++ (exponent ++ rest)).head?, isDigit c = false := by
  intro c hmem
  cases h with
  | absent => exact (hrest.exponent hexponent c hmem).1
  | point hdigits =>
      have hc : c = '.' := by simpa using hmem.symm
      subst hc
      decide

theorem IsUnsigned.leading {token : List Char} {v : Rat} (h : IsUnsigned token v) :
    ∃ c rest, token = c :: rest ∧ isDigit c = true := by
  cases h with
  | parts hwhole hfraction hexponent =>
      cases hwhole with
      | zero => exact ⟨'0', _, rfl, by decide⟩
      | leading first nonzero digits => exact ⟨_, _, rfl, first⟩

theorem IsUnsigned.not_minus {token : List Char} {v : Rat} (h : IsUnsigned token v) :
    ∃ c rest, token = c :: rest ∧ c ≠ '-' := by
  obtain ⟨c, rest, htoken, hdigit⟩ := h.leading
  refine ⟨c, rest, htoken, ?_⟩
  rintro rfl
  cases hdigit

private theorem IsUnsigned.read_append {token rest : List Char} {v : Rat} (h : IsUnsigned token v)
    (hrest : Stops rest) : ∃ whole fraction exponent s s',
      token = whole ++ (fraction ++ exponent) ∧ v = partsValue whole fraction exponent ∧
      readWhole (token ++ rest) = some (whole, s) ∧ readFraction s = some (fraction, s') ∧
      readExponent s' = some (exponent, rest) := by
  cases h with
  | @parts whole fraction exponent hwhole hfraction hexponent =>
      refine ⟨whole, fraction, exponent, fraction ++ (exponent ++ rest), exponent ++ rest,
        List.append_assoc _ _ _, rfl, ?_, ?_, ?_⟩
      · rw [List.append_assoc, List.append_assoc]
        exact readWhole_append hwhole (hrest.fraction hfraction hexponent)
      · exact readFraction_append hfraction (hrest.exponent hexponent)
      · exact readExponent_append hexponent hrest

/-- A number is read to its end and no further. -/
theorem readNumber_append {token rest : List Char} {v : Rat} (h : Denotes token v)
    (hrest : Stops rest) : readNumber (token ++ rest) = some (token, rest) := by
  cases h with
  | positive hunsigned =>
      obtain ⟨whole, fraction, exponent, s, s', hparts, -, hread, hread', hread''⟩ :=
        hunsigned.read_append hrest
      obtain ⟨c, tail, htoken, hminus⟩ := hunsigned.not_minus
      rw [htoken, List.cons_append] at hread ⊢
      simp [readNumber, hminus, hread, hread', hread'', ← hparts, htoken]
  | negative hunsigned =>
      obtain ⟨whole, fraction, exponent, s, s', hparts, -, hread, hread', hread''⟩ :=
        hunsigned.read_append hrest
      simp [readNumber, hread, hread', hread'', ← hparts]

theorem valueOf?_of_denotes {token : List Char} {v : Rat} (h : Denotes token v) :
    valueOf? token = some v := by
  have hrest : Stops [] := by
    intro c hmem
    cases hmem
  cases h with
  | positive hunsigned =>
      obtain ⟨whole, fraction, exponent, s, s', -, hvalue, hread, hread', hread''⟩ :=
        hunsigned.read_append hrest
      obtain ⟨c, tail, htoken, hminus⟩ := hunsigned.not_minus
      rw [List.append_nil, htoken] at hread
      rw [htoken]
      simp [valueOf?, hminus, hread, hread', hread'', hvalue]
  | negative hunsigned =>
      obtain ⟨whole, fraction, exponent, s, s', -, hvalue, hread, hread', hread''⟩ :=
        hunsigned.read_append hrest
      rw [List.append_nil] at hread
      simp [valueOf?, hread, hread', hread'', hvalue]

end Json

end LogShipping
