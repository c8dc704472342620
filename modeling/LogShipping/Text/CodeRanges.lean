namespace LogShipping.Text

abbrev CodeRanges := List (Nat × Nat)

namespace CodeRanges

def covers (ranges : CodeRanges) (c : Char) : Bool :=
  ranges.any fun (first, last) => first ≤ c.toNat && c.toNat ≤ last

end CodeRanges

end LogShipping.Text
