namespace LogShipping

def digitChar (d : Nat) : Char :=
  Char.ofNat ('0'.toNat + d % 10)

/-- The digits of `n`, most significant first, with no leading zero except for zero itself. -/
def decimalDigits (n : Nat) : List Char :=
  if n < 10 then [digitChar n] else decimalDigits (n / 10) ++ [digitChar n]

theorem decimalDigits_of_lt {n : Nat} (h : n < 10) : decimalDigits n = [digitChar n] := by
  rw [decimalDigits, if_pos h]

theorem decimalDigits_of_ge {n : Nat} (h : 10 ≤ n) :
    decimalDigits n = decimalDigits (n / 10) ++ [digitChar n] := by
  rw [decimalDigits, if_neg (by omega)]

def decimalText (n : Nat) : String :=
  String.ofList (decimalDigits n)

def paddedText (width n : Nat) : String :=
  let digits := decimalDigits n
  String.ofList (List.replicate (width - digits.length) '0' ++ digits)

def signedDigits (n : Int) : List Char :=
  if n < 0 then '-' :: decimalDigits n.natAbs else decimalDigits n.natAbs

def signedText (n : Int) : String :=
  String.ofList (signedDigits n)

structure Decimal where
  significand : Nat
  exponent : Int
  deriving DecidableEq

namespace Decimal

/-- The same number with no zero at the end of its significand. -/
def trimmed (significand : Nat) (exponent : Int) : Decimal :=
  if 0 < significand ∧ significand % 10 = 0 then trimmed (significand / 10) (exponent + 1)
  else ⟨significand, exponent⟩

def digits (d : Decimal) : List Char :=
  decimalDigits d.significand

def leadingExponent (d : Decimal) : Int :=
  d.exponent + d.digits.length - 1

end Decimal

end LogShipping
