import FilterGraph.Decimal.Binary64
import FilterGraph.Text.Blank
import FilterGraph.Text.Digit

/-!
# Reading doubles

A number is written as an optional sign, digits with an optional point among or around them, and an
optional exponent of ten; digits of any script count, and one underscore may stand between two
digits. The words for infinity and for the undefined number are read in any letter case. Blanks
around the number are skipped, but for the separators of the control block, which do not belong
there.
-/

set_option autoImplicit false

namespace FilterGraph.Decimal

open FilterGraph.Text

/-- Take out the underscores of a number, each of which has to stand between two digits. -/
def dropUnderscores : Bool → List Char → Option (List Char)
  | _, [] => some []
  | afterDigit, '_' :: rest =>
    if afterDigit && (rest.head?.map isDigit).getD false then dropUnderscores false rest else none
  | _, c :: rest => (dropUnderscores (isDigit c) rest).map (c :: ·)

/-- An optional sign before a number; true stands for a minus. -/
def splitSign : List Char → Bool × List Char
  | '-' :: rest => (true, rest)
  | '+' :: rest => (false, rest)
  | rest => (false, rest)

/-- The exponent at the end of a number. -/
def readExponent? : List Char → Option Int
  | [] => some 0
  | c :: rest =>
    if c = 'e' ∨ c = 'E' then
      let (negative, digits) := splitSign rest
      if digits.isEmpty || !digits.all isDigit then none
      else
        let size : Int := numberOfDigits digits
        some (if negative then -size else size)
    else none

/-- The digits of a number before and after its point, and what follows them. -/
def splitPoint (s : List Char) : List Char × List Char × List Char :=
  let before := s.takeWhile isDigit
  match s.dropWhile isDigit with
  | '.' :: rest => (before, rest.takeWhile isDigit, rest.dropWhile isDigit)
  | rest => (before, [], rest)

/-- A number without its sign. -/
def readMagnitude? (negative : Bool) (s : List Char) : Option Binary64 :=
  let word := String.ofList (s.map Char.toLower)
  if word = "inf" ∨ word = "infinity" then some (.infinite negative)
  else if word = "nan" then some .nan
  else
    let (before, after, rest) := splitPoint s
    if before.isEmpty && after.isEmpty then none
    else
      (readExponent? rest).map fun exponent =>
        .ofDecimal negative (numberOfDigits (before ++ after)) (exponent - after.length)

/-- Whether a character may stand around a number. -/
def isSkipped (c : Char) : Bool := isBlank c && !isSeparator c

/-- The double that a text writes. -/
def Binary64.ofText? (s : String) : Option Binary64 :=
  (dropUnderscores false (trimWhile isSkipped s.toList)).bind fun written =>
    let (negative, magnitude) := splitSign written
    readMagnitude? negative magnitude

end FilterGraph.Decimal
