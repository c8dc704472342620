/-!
IEEE 754 double precision numbers as their sixty-four bits, with exact decoding and correctly
rounded construction from a ratio of natural numbers.
-/

namespace LogShipping

structure Binary64 where
  bits : UInt64
  deriving DecidableEq

namespace Binary64

def fractionBits : Nat := 52

/-- The leading one of a normal significand, which is not stored: `2 ^ 52`. -/
def hiddenBit : Nat := 0x10000000000000

/-- The bit that is set in negative numbers: `2 ^ 63`. -/
def signBit : Nat := 0x8000000000000000

/-- The exponent of the last bit of the smallest numbers. -/
def minExponent : Int := -1074

/-- What sixty-four bits stand for: `significand * 2 ^ exponent` with a sign, or a special value. -/
inductive Class where
  | finite (negative : Bool) (significand : Nat) (exponent : Int)
  | infinite (negative : Bool)
  | nan

def negative (x : Binary64) : Bool :=
  signBit ≤ x.bits.toNat

def exponentField (x : Binary64) : Nat :=
  x.bits.toNat / hiddenBit % 2048

def fractionField (x : Binary64) : Nat :=
  x.bits.toNat % hiddenBit

def decode (x : Binary64) : Class :=
  if x.exponentField = 2047 then
    if x.fractionField = 0 then .infinite x.negative else .nan
  else if x.exponentField = 0 then
    .finite x.negative x.fractionField minExponent
  else
    .finite x.negative (x.fractionField + hiddenBit) (minExponent + (x.exponentField - 1 : Nat))

def isNaN (x : Binary64) : Bool :=
  x.exponentField = 2047 ∧ x.fractionField ≠ 0

def isZero (x : Binary64) : Bool :=
  x.exponentField = 0 ∧ x.fractionField = 0

/-- Equality of numbers: the two zeros agree, and a NaN agrees with nothing. -/
def agrees (x y : Binary64) : Bool :=
  !x.isNaN && !y.isNaN && (x.bits == y.bits || (x.isZero && y.isZero))

def toRat? (x : Binary64) : Option Rat :=
  match x.decode with
  | .finite negative significand exponent =>
    some ((if negative then -1 else 1) * significand * (2 : Rat) ^ exponent)
  | _ => none

/-- The quotient rounded to the nearest natural number, a half to the even one. -/
def roundDiv (num den : Nat) : Nat :=
  let floor := num / den
  let twice := 2 * (num % den)
  if twice < den then floor
  else if den < twice then floor + 1
  else if floor % 2 = 0 then floor
  else floor + 1

/-- The exponent `e` with `2 ^ e ≤ num / den < 2 ^ (e + 1)`, for positive arguments. -/
def ratioLog2 (num den : Nat) : Int :=
  let guess : Int := (num.log2 : Int) - den.log2
  let reached :=
    if 0 ≤ guess then den <<< guess.toNat ≤ num else den ≤ num <<< (-guess).toNat
  if reached then guess else guess - 1

/-- The number nearest to `num / den`, a tie going to the even significand; infinite when the
ratio is beyond the largest finite number. -/
def ofRatio (negative : Bool) (num den : Nat) : Binary64 :=
  let exponent := max (ratioLog2 num den - fractionBits) minExponent
  let significand :=
    if 0 ≤ exponent then roundDiv num (den <<< exponent.toNat)
    else roundDiv (num <<< (-exponent).toNat) den
  let magnitude := significand + (exponent - minExponent).toNat * hiddenBit
  let capped := if num = 0 then 0 else min magnitude (2047 * hiddenBit)
  ⟨UInt64.ofNat (capped + if negative then signBit else 0)⟩

def ofInt (n : Int) : Binary64 :=
  ofRatio (n < 0) n.natAbs 1

/-- Division by a positive whole number, correctly rounded. Special values stay what they are. -/
def divNat (x : Binary64) (den : Nat) : Binary64 :=
  match x.decode with
  | .finite negative significand exponent =>
    if 0 ≤ exponent then ofRatio negative (significand <<< exponent.toNat) den
    else ofRatio negative significand (den <<< (-exponent).toNat)
  | _ => x

end Binary64

end LogShipping
