import FilterGraph.Decimal.Binary64

/-!
# The fewest digits that read back

The reals that round to a double form an interval around it, whose ends belong to it when the
mantissa is even. For one digit, two digits and so on the two neighbours of the double on the grid
of that many digits are tried; the first grid with a neighbour in the interval gives the digits, of
two neighbours the nearer one, and on a tie the even one. Seventeen digits always suffice.
-/

set_option autoImplicit false

namespace FilterGraph.Decimal

/-- A positive double as a ratio, together with the interval of the reals that round to it. -/
structure Interval where
  /-- The numerator of the lower end. -/
  low : Nat
  /-- The numerator of the double itself. -/
  value : Nat
  /-- The numerator of the upper end. -/
  high : Nat
  /-- The common denominator. -/
  den : Nat
  /-- Whether the ends belong to the interval. -/
  closed : Bool

namespace Interval

/-- The interval of `mantissa * 2 ^ exponent`. Below a power of two the doubles lie twice as close,
so the lower end is half as far. -/
def ofDouble (mantissa : Nat) (exponent : Int) : Interval :=
  let (up, down) := powerRatio 2 exponent
  let below := if mantissa = Nat.pow 2 52 ∧ Binary64.minExponent < exponent then 1 else 2
  { low := (4 * mantissa - below) * up
    value := 4 * mantissa * up
    high := (4 * mantissa + 2) * up
    den := 4 * down
    closed := mantissa % 2 = 0 }

/-- Whether `number * 10 ^ scale` lies in the interval. -/
def contains (i : Interval) (number : Nat) (scale : Int) : Bool :=
  let (up, down) := powerRatio 10 scale
  let point := number * up * i.den
  if i.closed then i.low * down ≤ point && point ≤ i.high * down
  else i.low * down < point && point < i.high * down

/-- The power of ten next above the double: it has that many digits before the point, or starts
that many places after it. -/
def places (i : Interval) : Int := (digitCount (i.value * Nat.pow 10 400 / i.den) : Int) - 400

/-- The neighbour of the double that the grid of the given scale offers, if one is in the
interval. -/
def neighbour? (i : Interval) (scale : Int) : Option Nat :=
  let (up, down) := powerRatio 10 scale
  let below := i.value * down / (i.den * up)
  let above := below + 1
  match i.contains below scale, i.contains above scale with
  | true, true => some (roundHalfEven (i.value * down) (i.den * up))
  | true, false => some below
  | false, true => some above
  | false, false => none

/-- Try grids of ever more digits, with `tries` of them left. -/
def search (i : Interval) (places : Int) : Nat → Nat → Nat × Int
  | _, 0 => (i.value / i.den, 0)
  | count, tries + 1 =>
    let scale := places - count
    match i.neighbour? scale with
    | some number => (number, scale)
    | none => search i places (count + 1) tries

end Interval

/-- The shortest number `number * 10 ^ scale` that reads back as a positive double. -/
def shortest (mantissa : Nat) (exponent : Int) : Nat × Int :=
  let interval := Interval.ofDouble mantissa exponent
  interval.search interval.places 1 17

end FilterGraph.Decimal
