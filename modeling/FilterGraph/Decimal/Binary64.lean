/-!
# Double precision numbers

A number in double precision is kept as its sign, its mantissa and its exponent of two, so that it
can be rounded to and written from in exact integer arithmetic. Finite numbers are rounded by
`ofRatio`, to the nearest one and on a tie to the one with the even mantissa; so a mantissa has at
most 53 bits, an exponent lies between -1074 and 971, and only with the exponent -1074 has a
mantissa fewer than 53 bits.
-/

set_option autoImplicit false

namespace FilterGraph.Decimal

/-- A double precision number; the finite one with mantissa `m` and exponent `q` is `m * 2 ^ q`. -/
inductive Binary64 where
  | nan
  | infinite (negative : Bool)
  | finite (negative : Bool) (mantissa : Nat) (exponent : Int)
  deriving DecidableEq

/-- A power with an exponent of either sign, as a numerator and a denominator. -/
def powerRatio (base : Nat) (exponent : Int) : Nat × Nat :=
  if 0 ≤ exponent then (base.pow exponent.toNat, 1) else (1, base.pow (-exponent).toNat)

/-- The natural number nearest to a ratio; of two that are equally near, the even one. -/
def roundHalfEven (num den : Nat) : Nat :=
  let whole := num / den
  let rest := num % den
  if 2 * rest < den ∨ (2 * rest = den ∧ whole % 2 = 0) then whole else whole + 1

/-- The number of digits that a positive number has in base ten. -/
def digitCount (n : Nat) : Nat := (Nat.toDigits 10 n).length

namespace Binary64

/-- The least exponent. -/
def minExponent : Int := -1074

/-- The greatest exponent. -/
def maxExponent : Int := 971

/-- The exponent of two of a positive ratio: the ratio is at least this power and less than twice
it. -/
def ratioExponent (num den : Nat) : Int :=
  let guess : Int := (num.log2 : Int) - den.log2
  let (up, down) := powerRatio 2 guess
  if den * up ≤ num * down then guess else guess - 1

/-- The double nearest to a ratio, with the given sign. -/
def ofRatio (negative : Bool) (num den : Nat) : Binary64 :=
  if num = 0 then finite negative 0 minExponent
  else
    let exponent := max minExponent (ratioExponent num den - 52)
    let (up, down) := powerRatio 2 exponent
    let mantissa := roundHalfEven (num * down) (den * up)
    let (mantissa, exponent) :=
      if mantissa = Nat.pow 2 53 then (Nat.pow 2 52, exponent + 1) else (mantissa, exponent)
    if maxExponent < exponent then infinite negative else finite negative mantissa exponent

/-- The double nearest to `number * 10 ^ exponent`. Numbers beyond 310 places before the point are
infinite and those below 330 places after it are zero, whatever their digits. -/
def ofDecimal (negative : Bool) (number : Nat) (exponent : Int) : Binary64 :=
  let places := exponent + digitCount number
  if number = 0 ∨ places < -330 then finite negative 0 minExponent
  else if 310 < places then infinite negative
  else
    let (up, down) := powerRatio 10 exponent
    ofRatio negative (number * up) down

/-- The whole part of a finite double, rounded toward zero. -/
def whole? : Binary64 → Option Int
  | finite negative mantissa exponent =>
    let (up, down) := powerRatio 2 exponent
    let size : Int := (mantissa * up / down : Nat)
    some (if negative then -size else size)
  | _ => none

/-- Whether a double is exactly an integer. -/
def isInteger (x : Binary64) (n : Int) : Bool :=
  match x with
  | finite negative mantissa exponent =>
    let (up, down) := powerRatio 2 exponent
    (if negative then -(mantissa * up : Int) else mantissa * up) == n * down
  | _ => false

/-- The integer that a double is, if it is finite and has no part after the point. -/
def integer? (x : Binary64) : Option Int := x.whole?.filter fun n => x.isInteger n

/-- Equality of values: the two zeros are equal, and the undefined number equals nothing. -/
def valueEq : Binary64 → Binary64 → Bool
  | infinite a, infinite b => a == b
  | finite _ 0 _, finite _ 0 _ => true
  | finite a m p, finite b n q => a == b && m == n && p == q
  | _, _ => false

end Binary64

end FilterGraph.Decimal
