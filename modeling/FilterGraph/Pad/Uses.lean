import FilterGraph.Finding
import FilterGraph.Pad.Specifier

/-!
# The uses of pad labels

A label is used well when it is the output of one stage and taken in once, or when it is taken in
and names an input of the graph. The findings about labels come in the order in which the labels
first occur: first about each label that stages output, then about each label that is taken in.

What a label is does not matter here as long as labels can be compared, have a text, and can be
read as input specifiers, which may fail.
-/

set_option autoImplicit false

namespace FilterGraph.Pad

/-- The index of the input that a label names. An index with too many digits is not read. -/
def inputIndex? (pad : String) : Except Failure (Option Nat) :=
  match specifierDigits? pad with
  | none => .ok none
  | some digits =>
    if longestIndex < digits.length then .error (.longIndex digits.length)
    else .ok (some (Text.numberOfDigits digits))

/-- How the labels of a graph are used. -/
structure Uses (α : Type) where
  /-- The labels that stages output, as often as they do. -/
  produced : List α
  /-- The labels that stages and outputs take in, as often as they do. -/
  consumed : List α
  /-- The number of input streams. -/
  inputs : Nat

namespace Uses

variable {α : Type} [BEq α] (text : α → String) (index? : α → Except Failure (Option Nat))

/-- The findings about a label that stages output. -/
def productionFindings (u : Uses α) (label : α) : List Finding :=
  let count := u.produced.count label
  (if 1 < count then [.defect (.producedOften (text label) count)] else []) ++
    (if u.consumed.contains label then [] else [.remark (.unconsumed (text label))])

/-- The findings about a label that is taken in and that names the given input, if it names one. -/
def sourceFindings (u : Uses α) (label : α) : Option Nat → List Finding
  | none => [.defect (.dangling (text label))]
  | some index =>
    if u.inputs ≤ index then [.defect (.beyondInputs (text label) index u.inputs)] else []

/-- The findings about a label that is taken in. -/
def consumptionFindings (u : Uses α) (label : α) : Except Failure (List Finding) :=
  if u.produced.contains label then
    let count := u.consumed.count label
    .ok (if 1 < count then [.defect (.consumedOften (text label) count)] else [])
  else (index? label).map (u.sourceFindings text label)

/-- The findings about all labels in order. -/
def findings (u : Uses α) : Except Failure (List Finding) :=
  (u.consumed.eraseDups.mapM (u.consumptionFindings text index?)).map fun consumption =>
    u.produced.eraseDups.flatMap (u.productionFindings text) ++ consumption.flatten

end Uses

end FilterGraph.Pad
