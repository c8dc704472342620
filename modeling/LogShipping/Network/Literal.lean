import LogShipping.Network.Endpoint

/-!
Numeric host names, which need no lookup: four decimal octets, or hexadecimal groups in which `::`
stands for one or more zero groups and the last two groups may be written as octets.
-/

namespace LogShipping.Network

namespace Literal

def digitValue? (base : Nat) (c : Char) : Option Nat :=
  let value? :=
    if '0' ≤ c ∧ c ≤ '9' then some (c.toNat - '0'.toNat)
    else if 'a' ≤ c ∧ c ≤ 'f' then some (c.toNat - 'a'.toNat + 10)
    else if 'A' ≤ c ∧ c ≤ 'F' then some (c.toNat - 'A'.toNat + 10)
    else none
  value?.filter (· < base)

def number? (base width : Nat) (chars : List Char) : Option Nat :=
  if chars.isEmpty ∨ width < chars.length then none
  else chars.foldl (fun acc c => acc.bind fun n => (digitValue? base c).map (base * n + ·)) (some 0)

/-- An octet has no needless leading zero. -/
def octet? (chars : List Char) : Option UInt8 :=
  if chars.head? = some '0' ∧ 1 < chars.length then none
  else ((number? 10 3 chars).filter (· < 256)).map UInt8.ofNat

def octets? (chars : List Char) : Option (Vector UInt8 4) :=
  match (chars.splitOn '.').map octet? with
  | [some a, some b, some c, some d] => some #v[a, b, c, d]
  | _ => none

def pair (high low : UInt8) : UInt16 :=
  high.toUInt16 * 256 + low.toUInt16

/-- The groups of a piece between colons: one, or two when it is written as octets. -/
def groupsOf? (mayBeOctets : Bool) (chars : List Char) : Option (List UInt16) :=
  match number? 16 4 chars with
  | some n => some [UInt16.ofNat n]
  | none =>
    if mayBeOctets then
      (octets? chars).map fun o => [pair o[0] o[1], pair o[2] o[3]]
    else none

/-- The groups of a run of pieces, of which only the last may be octets. -/
def groups? (octetsAtEnd : Bool) : List (List Char) → Option (List UInt16)
  | [] => some []
  | [piece] => groupsOf? octetsAtEnd piece
  | piece :: rest => do return (← groupsOf? false piece) ++ (← groups? octetsAtEnd rest)

def splitGap : List Char → Option (List Char × List Char)
  | ':' :: ':' :: rest => some ([], rest)
  | c :: rest => (splitGap rest).map fun (before, after) => (c :: before, after)
  | [] => none

def side? (octetsAtEnd : Bool) (chars : List Char) : Option (List UInt16) :=
  if chars.isEmpty then some [] else groups? octetsAtEnd (chars.splitOn ':')

def groupVector (groups : List UInt16) : Vector UInt16 8 :=
  Vector.ofFn fun i => groups.getD i.val 0

def v6? (chars : List Char) : Option (Vector UInt16 8) :=
  match splitGap chars with
  | none => do
    let groups ← groups? true (chars.splitOn ':')
    if groups.length = 8 then some (groupVector groups) else none
  | some (before, after) => do
    let head ← side? false before
    let tail ← side? true after
    let zeros := 8 - (head.length + tail.length)
    if zeros = 0 then none
    else some (groupVector (head ++ List.replicate zeros 0 ++ tail))

end Literal

def Address.ofLiteral? (host : String) : Option Address :=
  match Literal.octets? host.toList with
  | some octets => some (.v4 octets)
  | none => (Literal.v6? host.toList).map fun groups => .v6 groups

end LogShipping.Network
