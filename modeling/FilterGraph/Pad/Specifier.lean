import FilterGraph.Text.Digit

/-!
# Input specifiers

A pad label may name a stream of an input instead of the output of a stage. Such a label starts
with the index of the input in decimal digits of any script; after the index it ends, or a colon
and a selector follow. A selector is not empty and holds no line feed. One line feed may stand at
the very end.

`specifierDigits?` reads a label from the left. `Specifies` states the same form of a label without
reading.
-/

set_option autoImplicit false

namespace FilterGraph.Pad

open FilterGraph.Text

/-- A text without one line feed at its end. -/
def dropLineFeed (s : List Char) : List Char :=
  if s.getLast? = some '\n' then s.dropLast else s

/-- Whether a text is a selector, with or without a line feed after it. -/
def isSelector (s : List Char) : Bool :=
  let selector := dropLineFeed s
  !selector.isEmpty && !selector.contains '\n'

/-- Whether a text may follow the index of a specifier. -/
def mayFollowIndex : List Char → Bool
  | [] => true
  | ['\n'] => true
  | ':' :: rest => isSelector rest
  | _ => false

/-- The digits of the index with which an input specifier starts, and nothing for any other
label. -/
def specifierDigits? (pad : String) : Option (List Char) :=
  let digits := pad.toList.takeWhile isDigit
  if !digits.isEmpty && mayFollowIndex (pad.toList.dropWhile isDigit) then some digits else none

/-- Whether a label is an input specifier. -/
def isSpecifier (pad : String) : Bool := (specifierDigits? pad).isSome

/-- What a specifier has after its index, apart from a line feed at the end: nothing, or a colon and
a selector. -/
def IsSelection (s : List Char) : Prop :=
  s = [] ∨ ∃ selector, s = ':' :: selector ∧ selector ≠ [] ∧ '\n' ∉ selector

/-- The label is an input specifier with the given digits for its index. -/
def Specifies (digits : List Char) (pad : String) : Prop :=
  digits ≠ [] ∧ (∀ c ∈ digits, isDigit c = true) ∧
    ∃ selection, IsSelection selection ∧
      (pad.toList = digits ++ selection ∨ pad.toList = digits ++ selection ++ ['\n'])

end FilterGraph.Pad
