import LogShipping.Numeric.Binary64
import LogShipping.Numeric.Decimal

/-!
The shortest decimal that reads back as a given binary number.

A number `m * 2 ^ q` is what every real between the midpoints to its neighbours rounds to, the
midpoints included when `m` is even. Among the decimals in that interval one with the fewest digits
is chosen, and of those the nearest to the number.
-/

namespace LogShipping

/-- Which of two decimals at the same distance is written. -/
inductive TieRule where
  | even
  | upward

namespace Shortest

/-- Multipliers `(a, b)` such that `c * 10 ^ p` relates to `u * 2 ^ (q - 2)` as `c * a` to
`u * b`. -/
def scales (q p : Int) : Nat × Nat :=
  (Nat.pow 10 p.toNat <<< (2 - q).toNat, Nat.pow 10 (-p).toNat <<< (q - 2).toNat)

/-- The distance in quarters from a number down to the midpoint below it. It is halved at a power
of two, where the numbers below are twice as dense. -/
def gapBelow (m : Nat) (q : Int) : Nat :=
  if m = Binary64.hiddenBit ∧ Binary64.minExponent < q then 1 else 2

def readsBack (m : Nat) (q p : Int) (c : Nat) : Bool :=
  let (a, b) := scales q p
  let low := (4 * m - gapBelow m q) * b
  let high := (4 * m + 2) * b
  if m % 2 = 0 then low ≤ c * a ∧ c * a ≤ high else low < c * a ∧ c * a < high

/-- The largest multiple of `10 ^ p` that is at most `m * 2 ^ q`. -/
def floorAt (m : Nat) (q p : Int) : Nat :=
  let (a, b) := scales q p
  4 * m * b / a

/-- Of the two neighbours of `m * 2 ^ q` among the multiples of `10 ^ p`, the nearest that reads
back. -/
def atExponent (tie : TieRule) (m : Nat) (q p : Int) : Option Decimal :=
  let (a, b) := scales q p
  let below := floorAt m q p
  let above := below + 1
  match readsBack m q p below, readsBack m q p above with
  | false, false => none
  | true, false => some (.trimmed below p)
  | false, true => some (.trimmed above p)
  | true, true =>
    let toBelow := 4 * m * b - below * a
    let toAbove := above * a - 4 * m * b
    let chosen :=
      if toBelow < toAbove then below
      else if toAbove < toBelow then above
      else match tie with
        | .upward => above
        | .even => if below % 2 = 0 then below else above
    some (.trimmed chosen p)

/-- The largest `p` at most `start` with `10 ^ p ≤ m * 2 ^ q`, looked for through `fuel`
exponents. -/
def leadingFrom (m : Nat) (q : Int) : Nat → Int → Int
  | 0, start => start
  | fuel + 1, start => if 0 < floorAt m q start then start else leadingFrom m q fuel (start - 1)

/-- The power of ten of the first digit of a positive double, which lies between `10 ^ (-324)` and
`10 ^ 309`. -/
def leading (m : Nat) (q : Int) : Int :=
  leadingFrom m q 633 308

/-- Seventeen digits always suffice, so the last resort is never taken for a double. -/
def ofBinary (tie : TieRule) (m : Nat) (q : Int) : Decimal :=
  if m = 0 then ⟨0, 0⟩
  else
    let first := leading m q
    let candidates := (List.range 17).map fun (extra : Nat) => first - extra
    (candidates.findSome? (atExponent tie m q)).getD ⟨floorAt m q 0, 0⟩

end Shortest

end LogShipping
