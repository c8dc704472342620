import LogShipping.Numeric.Shortest

namespace LogShipping

structure NumberStyle where
  tie : TieRule
  /-- The powers of ten of the first digit that are written without an exponent. -/
  isPlain : Int → Bool
  /-- Whether a whole number written plainly ends in `.0`. -/
  marksWhole : Bool

namespace NumberStyle

/-- Digits with a point in their midst and as many zeros as that takes. -/
def plain (style : NumberStyle) (digits : List Char) (first : Int) : List Char :=
  if first < 0 then
    '0' :: '.' :: (List.replicate (-first - 1).toNat '0' ++ digits)
  else
    let whole := first.toNat + 1
    if digits.length ≤ whole then
      digits ++ List.replicate (whole - digits.length) '0' ++
        (if style.marksWhole then ['.', '0'] else [])
    else
      digits.take whole ++ '.' :: digits.drop whole

/-- One digit before the point, and an exponent that always has a sign. -/
def scientific (digits : List Char) (first : Int) : List Char :=
  let mantissa :=
    match digits with
    | [] => []
    | [d] => [d]
    | d :: rest => d :: '.' :: rest
  mantissa ++ 'e' :: (if first < 0 then '-' else '+') :: decimalDigits first.natAbs

def magnitude (style : NumberStyle) (m : Nat) (q : Int) : List Char :=
  let d := Shortest.ofBinary style.tie m q
  if style.isPlain d.leadingExponent then style.plain d.digits d.leadingExponent
  else scientific d.digits d.leadingExponent

def finite? (style : NumberStyle) (x : Binary64) : Option (List Char) :=
  match x.decode with
  | .finite negative m q =>
    let text := style.magnitude m q
    some (if negative then '-' :: text else text)
  | _ => none

/-- For people: never an exponent, and whole numbers without a point. A tie goes upward. -/
def readable : NumberStyle where
  tie := .upward
  isPlain := fun _ => true
  marksWhole := false

/-- For documents: an exponent below `10 ^ (-5)` and from `10 ^ 16` on, and always a point or an
exponent, so that the text never reads as an integer. A tie goes to the even digit. -/
def document : NumberStyle where
  tie := .even
  isPlain := fun first => -5 ≤ first && first < 16
  marksWhole := true

end NumberStyle

def Binary64.specialText (x : Binary64) : String :=
  match x.decode with
  | .infinite false => "inf"
  | .infinite true => "-inf"
  | _ => "NaN"

def Binary64.text (x : Binary64) : String :=
  match NumberStyle.readable.finite? x with
  | some chars => String.ofList chars
  | none => x.specialText

end LogShipping
