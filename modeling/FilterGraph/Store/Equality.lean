import FilterGraph.Store.Basic

/-!
# Equality of what is in a store

Two values are equal when they look the same part by part, where parts that are one and the same are
equal without being looked at. Objects of different shapes are never equal. Dictionaries are
compared without regard to the order of their entries, and numbers and truth values by their size:
true is one, and one is the double one. The undefined number does not equal itself, but a list
equals itself even if it holds the undefined number.
-/

set_option autoImplicit false

namespace FilterGraph.Store

/-- Whether two lists are equally long and agree element by element. -/
def allEqual (equal : Value → Value → Bool) (xs ys : List Value) : Bool :=
  xs.length == ys.length && (xs.zip ys).all fun pair => equal pair.1 pair.2

/-- Whether two dictionaries have the same number of entries and each entry of the first has an
equal value under its key in the second. -/
def entriesEqual (equal : Value → Value → Bool) (xs ys : Entries Value) : Bool :=
  xs.length == ys.length && xs.all fun e => (Entries.find? e.1 ys).any (equal e.2)

/-- Whether some fields of one object are equal to those of another one. -/
def fieldsEqual (equal : Value → Value → Bool) (names : List String) (xs ys : Entries Value) :
    Bool :=
  entriesEqual equal (xs.filter (·.1 ∈ names)) (ys.filter (·.1 ∈ names))

/-- Equality of two values down to some depth. -/
def Cells.equalTo (cells : Cells) : Nat → Value → Value → Bool
  | 0, a, b => a == b
  | depth + 1, a, b =>
    let equalParts := fun a b => a == b || cells.equalTo depth a b
    match cells.content a, cells.content b with
    | .atom x, .atom y => x.equal y
    | .list xs, .list ys => allEqual equalParts xs ys
    | .dictionary xs, .dictionary ys => entriesEqual equalParts xs ys
    | .record shape xs, .record other ys =>
      shape == other && fieldsEqual equalParts shape.fieldNames xs ys
    | _, _ => false

/-- Whether two values are equal. -/
def Cells.equal (cells : Cells) (a b : Value) : Bool := cells.equalTo (cells.length + 1) a b

end FilterGraph.Store
