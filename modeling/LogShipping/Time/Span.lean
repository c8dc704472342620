import LogShipping.Numeric.Decimal

namespace LogShipping

structure Span where
  seconds : Nat
  nanos : Nat
  deriving DecidableEq

namespace Span

def ofMillis (n : Nat) : Span :=
  ⟨n / 1000, n % 1000 * 1000000⟩

def ofSeconds (n : Nat) : Span :=
  ⟨n, 0⟩

def millis (s : Span) : Nat :=
  s.seconds * 1000 + s.nanos / 1000000

/-- The digits of `part / 10 ^ width` after the point, with no zero at the end. -/
def fraction (width part : Nat) : String :=
  let digits := (paddedText width part).toList.reverse.dropWhile (· = '0')
  if digits.isEmpty then "" else String.ofList ('.' :: digits.reverse)

/-- In the largest unit of which it holds one at least, to the nanosecond. -/
def text (s : Span) : String :=
  if 0 < s.seconds then decimalText s.seconds ++ fraction 9 s.nanos ++ "s"
  else if 1000000 ≤ s.nanos then
    decimalText (s.nanos / 1000000) ++ fraction 6 (s.nanos % 1000000) ++ "ms"
  else if 1000 ≤ s.nanos then
    decimalText (s.nanos / 1000) ++ fraction 3 (s.nanos % 1000) ++ "µs"
  else decimalText s.nanos ++ "ns"

end Span

end LogShipping
