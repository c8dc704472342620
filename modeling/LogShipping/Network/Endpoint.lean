import LogShipping.Numeric.Decimal

namespace LogShipping.Network

inductive Address where
  | v4 (octets : Vector UInt8 4)
  /-- The scope tells the links apart on which the address is valid; most addresses have none. -/
  | v6 (groups : Vector UInt16 8) (scope : UInt32 := 0)
  deriving DecidableEq

structure Endpoint where
  address : Address
  port : UInt16
  deriving DecidableEq

def Endpoint.isV4 (e : Endpoint) : Bool :=
  match e.address with
  | .v4 _ => true
  | .v6 .. => false

namespace Address

def dotted (octets : List Nat) : String :=
  String.intercalate "." (octets.map decimalText)

def colons (groups : List UInt16) : String :=
  String.intercalate ":" (groups.map fun group => String.ofList (Nat.toDigits 16 group.toNat))

/-- The first of the longest runs of zero groups, as its place and its length. -/
def longestZeros (groups : List UInt16) : Nat × Nat :=
  (List.range groups.length).foldl
    (fun best place =>
      let run := ((groups.drop place).takeWhile (· = 0)).length
      if best.2 < run then (place, run) else best)
    (0, 0)

/-- The longest run of zero groups is left out, unless it is a single one. An address of the older
family in the newer one keeps its octets. -/
def groupsText (groups : List UInt16) : String :=
  if groups.take 6 = [0, 0, 0, 0, 0, 0xffff] then
    "::ffff:" ++ dotted ((groups.drop 6).flatMap fun g => [g.toNat / 256, g.toNat % 256])
  else
    let (place, run) := longestZeros groups
    if run ≤ 1 then colons groups
    else colons (groups.take place) ++ "::" ++ colons (groups.drop (place + run))

end Address

def Endpoint.text (e : Endpoint) : String :=
  let host := match e.address with
    | .v4 octets => Address.dotted (octets.toList.map UInt8.toNat)
    | .v6 groups scope =>
      let zone := if scope = 0 then "" else "%" ++ decimalText scope.toNat
      "[" ++ Address.groupsText groups.toList ++ zone ++ "]"
  host ++ ":" ++ decimalText e.port.toNat

example :
    [Address.v6 #v[0x2001, 0xdb8, 0, 0, 1, 0, 0, 1], .v6 #v[0xfe80, 0, 0, 0, 0, 0, 0, 0x1a] 2,
      .v6 #v[0, 0, 0, 0, 0, 0xffff, 0xc000, 0x201], .v4 #v[10, 0, 0, 1]].map
        (fun address => Endpoint.text ⟨address, 80⟩) =
      ["[2001:db8::1:0:0:1]:80", "[fe80::1a%2]:80", "[::ffff:192.0.2.1]:80", "10.0.0.1:80"] := by
  cbv

/-- What came out of one address lookup: the endpoints still to be dialled, in order, and how many
have been. -/
structure DialPlan where
  dialled : List Endpoint
  remaining : List Endpoint
  deriving DecidableEq

namespace DialPlan

/-- Dials the older family first, and keeps the order of the lookup within a family. -/
def ofLookup (found : List Endpoint) : DialPlan :=
  let (v4, v6) := found.partition Endpoint.isV4
  ⟨[], v4 ++ v6⟩

def next? (plan : DialPlan) : Option (Endpoint × DialPlan) :=
  match plan.remaining with
  | [] => none
  | e :: rest => some (e, ⟨plan.dialled ++ [e], rest⟩)

def isExhausted (plan : DialPlan) : Bool :=
  plan.remaining.isEmpty

def size (plan : DialPlan) : Nat :=
  plan.dialled.length + plan.remaining.length

@[simp] theorem size_ofLookup (found : List Endpoint) : (ofLookup found).size = found.length := by
  simp only [ofLookup, size, List.partition_eq_filter_filter, List.length_append, List.length_nil]
  induction found with
  | nil => rfl
  | cons e rest ih => by_cases h : e.isV4 <;> simp [h] at ih ⊢ <;> omega

end DialPlan

end LogShipping.Network
