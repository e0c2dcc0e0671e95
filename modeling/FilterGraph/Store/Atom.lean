import FilterGraph.Node

/-!
# Atoms

An atom is a value without parts: a scalar that is no container, or one of the two directions of a
stream. A direction is compared as its text and has the characters of its text, but it is written in
a way of its own.

Atoms that look alike need not be one and the same. There is only one of each truth value and of
each direction, of each integer close to zero, and of each text of at most one character from the
first Latin block; of other atoms there may be several.
-/

set_option autoImplicit false

namespace FilterGraph

/-- The name of a direction in capital letters. -/
def Direction.name : Direction → String
  | .input => "INPUT"
  | .output => "OUTPUT"
  | .other label _ => label

/-- A value without parts. -/
inductive Atom where
  | none
  | bool (value : Bool)
  | int (value : Int)
  | float (value : Decimal.Binary64)
  | text (value : String)
  | direction (value : Direction)
  deriving DecidableEq

namespace Atom

/-- The kind of an atom. -/
def kind : Atom → Kind
  | .none => .none
  | .bool _ => .bool
  | .int _ => .int
  | .float _ => .float
  | .text _ => .text
  | .direction _ => .direction

/-- The shown text of an atom. -/
def shown : Atom → String
  | .none => Scalar.none.shown
  | .bool b => (Scalar.bool b).shown
  | .int n => (Scalar.int n).shown
  | .float x => (Scalar.float x).shown
  | .text s => (Scalar.text s).shown
  | .direction d =>
    "<" ++ Kind.direction.label ++ "." ++ d.name ++ ": " ++ Text.quoted d.text ++ ">"

/-- The plain text of an atom. -/
def plain : Atom → String
  | .text s => s
  | .direction d => Kind.direction.label ++ "." ++ d.name
  | a => a.shown

/-- The characters of a text or of a direction. -/
def characters? : Atom → Option String
  | .text s => some s
  | .direction d => some d.text
  | _ => Option.none

/-- Whether an atom is void: nothing, the false truth value, zero, or a text without characters. -/
def isVoid : Atom → Bool
  | .none => true
  | .bool b => !b
  | .int n => n == 0
  | .float x => x.isInteger 0
  | .text s => s == ""
  | .direction _ => false

/-- The integer that an atom is by its size. -/
def integer? : Atom → Option Int
  | .bool b => some (if b then 1 else 0)
  | .int n => some n
  | .float x => x.integer?
  | _ => Option.none

/-- Equality of atoms: of characters, of nothing, or of numbers by their size. -/
def equal : Atom → Atom → Bool
  | .none, .none => true
  | .float x, .float y => x.valueEq y
  | a, b =>
    match a.characters?, b.characters?, a.integer?, b.integer? with
    | some s, some t, _, _ => s == t
    | _, _, some m, some n => m == n
    | _, _, _, _ => false

/-- A field of an atom: a direction has its name and its text for fields. -/
def field? : Atom → String → Option Atom
  | .direction d, "name" => some (.text d.name)
  | .direction d, "value" => some (.text d.text)
  | _, _ => Option.none

/-- Whether there is only one atom that looks like this one. -/
def isUnique : Atom → Bool
  | .none => true
  | .bool _ => true
  | .int n => -5 ≤ n && n ≤ 256
  | .float _ => false
  | .text s => s.length ≤ 1 && s.toList.all fun c => c.toNat < 256
  | .direction _ => true

end Atom

end FilterGraph
