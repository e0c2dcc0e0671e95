import FilterGraph.Decimal.Layout
import FilterGraph.Kind
import FilterGraph.Text.Quoted

/-!
# Scalar values

A scalar is a value that an option, a log argument or a settings field may have. It has two texts:
the plain one, in which a text stands for itself, and the shown one, in which it is quoted. Inside
lists and dictionaries texts are always quoted, so that a shown value stays on one line.
-/

set_option autoImplicit false

namespace FilterGraph

open FilterGraph.Text

/-- A value of an option, a log argument or a settings field. -/
inductive Scalar where
  | none
  | bool (value : Bool)
  | int (value : Int)
  | float (value : Decimal.Binary64)
  | text (value : String)
  | list (items : List Scalar)
  | dictionary (entries : List (String × Scalar))
  deriving Inhabited

namespace Scalar

/-- Numbers are written with all their places from four places after the point to sixteen before
it, and else with a signed exponent of at least two digits. -/
def numberLayout : Decimal.Layout where
  lowest := -4
  highest := 15
  wholeEnd := ".0"
  exponentMark := "e"
  exponentWidth := 2
  infinity := "inf"
  undefined := "nan"

/-- The text of a truth value. -/
def truthText (b : Bool) : String := if b then "True" else "False"

mutual
/-- The shown text of a value. -/
def shown : Scalar → String
  | .none => "None"
  | .bool b => truthText b
  | .int n => n.repr
  | .float x => numberLayout.write x
  | .text s => quoted s
  | .list items => "[" ++ String.intercalate ", " (shownItems items) ++ "]"
  | .dictionary entries => "\x7b" ++ String.intercalate ", " (shownEntries entries) ++ "\x7d"

/-- The shown texts of the items of a list. -/
def shownItems : List Scalar → List String
  | [] => []
  | item :: rest => item.shown :: shownItems rest

/-- The shown texts of the entries of a dictionary. -/
def shownEntries : List (String × Scalar) → List String
  | [] => []
  | (key, value) :: rest => (quoted key ++ ": " ++ value.shown) :: shownEntries rest
end

/-- The plain text of a value. -/
def plain : Scalar → String
  | .text s => s
  | value => value.shown

/-- The kind of a value. -/
def kind : Scalar → Kind
  | .none => .none
  | .bool _ => .bool
  | .int _ => .int
  | .float _ => .float
  | .text _ => .text
  | .list _ => .list
  | .dictionary _ => .dictionary

end Scalar

end FilterGraph
