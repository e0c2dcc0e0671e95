import FilterGraph.Store.Compilation
import FilterGraph.Validation

/-!
# Validating what is seen of a store

The findings are those of `FilterGraph.Validation`, for objects whose fields may hold anything. What
is void counts as left out: a void label is an empty one, and a void name is none. The pads of a
stage have to join to one row, a label has to be a row of elements itself, and labels are counted,
which containers and objects cannot be. A label that is not void and comes through all this is a
text.
-/

set_option autoImplicit false

namespace FilterGraph.Store

/-- A label that can be counted. -/
structure Label where
  value : Atom

namespace Label

/-- Labels are compared as the values that they are. -/
instance : BEq Label := ⟨fun a b => a.value.equal b.value⟩

/-- The text of a label. -/
def text (label : Label) : String := label.value.plain

/-- The index of the input that a label names; only a text can name one. -/
def inputIndex? (label : Label) : Except Failure (Option Nat) :=
  match label.value.characters? with
  | some s => Pad.inputIndex? s
  | none => .error (.notCharacters label.value.kind)

end Label

namespace View

/-- What is seen as a label. -/
def toLabel : View → Except Failure Label
  | .atom value => .ok { value }
  | v => .error (.uncountable v.kind)

/-- The findings about a label. The elements of a container are looked at as if they were its
characters; what is found is left out, as a container is refused when the labels are counted. -/
def padFindings (v : View) : Except Failure (List Finding) :=
  if v.isVoid then .ok [.defect .emptyPad]
  else
    match v.characters? with
    | some s => .ok (FilterGraph.padFindings s)
    | none => do
      let _ ← (← v.elements).mapM toLabel
      return []

/-- The findings about some labels. -/
def padsFindings (pads : List View) : Except Failure (List Finding) :=
  (pads.mapM padFindings).map List.flatten

/-- The kind of the sum of two numbers. -/
def sumKind? (a b : View) : Option Kind :=
  match a, b with
  | .atom a, .atom b =>
    if (a.kind = .float ∨ a.integer?.isSome) ∧ (b.kind = .float ∨ b.integer?.isSome) then
      some (if a.kind = .float ∨ b.kind = .float then .float else .int)
    else none
  | _, _ => none

/-- The elements of two rows as one row. Lists join with lists and texts with texts; numbers can be
added, but their sum is no row. -/
def joined (a b : View) : Except Failure (List View) :=
  match a, b, a.characters?, b.characters?, sumKind? a b with
  | .list xs, .list ys, _, _, _ => .ok (xs ++ ys)
  | _, _, some s, some t, _ => (View.atom (.text (s ++ t))).elements
  | _, _, _, _, some kind => .error (.notIterable kind)
  | _, _, some _, none, none => .error (.notJoinable .text b.kind)
  | _, _, none, _, none => .error (.notJoinable a.kind b.kind)

/-- The findings about an operation of the stage with the given label. -/
def operationFindings (stage : String) (v : View) : Except Failure (List Finding) := do
  let name ← v.field "name"
  let options ← v.field "options"
  return (if name.isVoid then [.defect (.namelessOperation stage)] else []) ++
    match options with
    | .record .raw _ =>
      if (options.get "text").isVoid then [.remark (.emptyRawOptions name.plain stage)] else []
    | _ => []

/-- The label that messages call a stage by. -/
def stageLabel (v : View) : String :=
  let name := v.get "name"
  if name.isVoid then ({} : Stage).label else name.plain

/-- The findings about a stage by itself. -/
def stageFindings (v : View) : Except Failure (List Finding) := do
  let pads ← padsFindings (← joined (v.get "input_pads") (v.get "output_pads"))
  let operations := v.get "operations"
  let found ← (← operations.elements).mapM (operationFindings v.stageLabel)
  return pads ++
    (if operations.isVoid then [.remark (.idleStage v.stageLabel)] else []) ++ found.flatten

/-- What a node takes in. -/
def consumed (v : View) : Except Failure (List View) :=
  if v.isStage then (v.get "input_pads").elements
  else if v.isStream .output then v.mappedPads
  else .ok []

/-- Everything that is found in the graph of what is seen, in order. -/
def findings (views : List View) : Except Failure (List Finding) := do
  let inputs := views.filter (isStream .input)
  let outputs := views.filter (isStream .output)
  let stages := views.filter isStage
  let stageFindings ← stages.mapM stageFindings
  let mapped ← outputs.mapM fun v => do padsFindings (← v.mappedPads)
  let produced ← stages.mapM fun v => (v.get "output_pads").elements
  let produced ← produced.flatten.mapM toLabel
  let consumed ← views.mapM consumed
  let consumed ← consumed.flatten.mapM toLabel
  let uses : Pad.Uses Label := { produced, consumed, inputs := inputs.length }
  let useFindings ← uses.findings Label.text Label.inputIndex?
  let ignored := inputs.filter fun v => !(v.get "mapped_pads").isVoid
  let unmapped :=
    if stages.isEmpty then [] else outputs.filter fun v => (v.get "mapped_pads").isVoid
  return presenceFindings inputs.length outputs.length ++ stageFindings.flatten ++
    ignored.map (fun v => .remark (.mappedInput (v.get "path").plain)) ++ mapped.flatten ++
    unmapped.map (fun v => .defect (.unmappedOutput (v.get "path").plain)) ++ useFindings

/-- The report on the graph of what is seen. -/
def validate (views : List View) : Except Failure Report :=
  (findings views).map Report.ofFindings

/-- The command of the graph of what is seen. -/
def command (views : List View) (strict : Bool) : Except Failure String := do
  if strict then
    let report ← validate views
    report.screen
  (← toGraph views).command

end View

end FilterGraph.Store
