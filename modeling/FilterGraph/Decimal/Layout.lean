import FilterGraph.Decimal.Shortest

/-!
# The layout of written doubles

A layout says which doubles are written with all their places and which with an exponent of ten,
and how either looks. The digits are always the fewest that read back.
-/

set_option autoImplicit false

namespace FilterGraph.Decimal

/-- The decisions about how a double is written. -/
structure Layout where
  /-- The least exponent of ten of a number that is written with all its places. -/
  lowest : Int
  /-- The greatest exponent of ten of a number that is written with all its places. -/
  highest : Int
  /-- What follows the digits of a whole number that is written with all its places. -/
  wholeEnd : String
  /-- The letter before an exponent. -/
  exponentMark : String
  /-- The least number of digits of an exponent, which always has a sign. -/
  exponentWidth : Nat
  /-- The word for infinity. -/
  infinity : String
  /-- The word for the undefined number. -/
  undefined : String

namespace Layout

/-- Digits with all their places; `point` is the number of places before the point. -/
def positional (layout : Layout) (digits : List Char) (point : Int) : String :=
  if point ≤ 0 then "0." ++ String.ofList (List.replicate (-point).toNat '0' ++ digits)
  else
    let before := point.toNat
    if digits.length ≤ before then
      String.ofList (digits ++ List.replicate (before - digits.length) '0') ++ layout.wholeEnd
    else String.ofList (digits.take before) ++ "." ++ String.ofList (digits.drop before)

/-- Digits with an exponent. -/
def scientific (layout : Layout) (digits : List Char) (exponent : Int) : String :=
  let size := Nat.toDigits 10 exponent.natAbs
  let zeros := List.replicate (layout.exponentWidth - size.length) '0'
  let sign := if exponent < 0 then "-" else "+"
  let fraction := if digits.length ≤ 1 then "" else "." ++ String.ofList (digits.drop 1)
  String.ofList (digits.take 1) ++ fraction ++ layout.exponentMark ++ sign
    ++ String.ofList (zeros ++ size)

/-- A finite double without its sign. -/
def magnitude (layout : Layout) (mantissa : Nat) (exponent : Int) : String :=
  if mantissa = 0 then layout.positional ['0'] 1
  else
    let (number, scale) := shortest mantissa exponent
    let point := scale + digitCount number
    let digits := ((Nat.toDigits 10 number).reverse.dropWhile (· = '0')).reverse
    if layout.lowest ≤ point - 1 ∧ point - 1 ≤ layout.highest then layout.positional digits point
    else layout.scientific digits (point - 1)

/-- A double as text. -/
def write (layout : Layout) : Binary64 → String
  | .nan => layout.undefined
  | .infinite negative => (if negative then "-" else "") ++ layout.infinity
  | .finite negative mantissa exponent =>
    (if negative then "-" else "") ++ layout.magnitude mantissa exponent

end Layout

end FilterGraph.Decimal
