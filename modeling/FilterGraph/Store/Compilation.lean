import FilterGraph.Command
import FilterGraph.Store.View

/-!
# Compiling what is seen of a store

Nothing is asked of the fields of objects until they are needed. What is only written may be
anything, as it is written with its plain text; pads and chains have to be rows of elements, the
elements of a chain need a name and options that can be written, and the path of an output has to be
a text. `View.toGraph` finds out about this from left to right and gives a graph that is written
alike; so its first failure is the failure of the compilation.
-/

set_option autoImplicit false

namespace FilterGraph.Store

namespace View

/-- What is seen as options that can be written. -/
def toPayload (v : View) : Except Failure Payload :=
  match v with
  | .record .keyed _ =>
    match v.get "values" with
    | .dictionary entries => .ok (.keyed (entries.map fun e => (e.1, .text e.2.plain)))
    | values => .error (.missingField values.kind "items")
  | .record .raw _ => .ok (.raw (v.get "text").plain)
  | v => .error (.unsupportedPayload v.kind)

/-- What is seen as an operation. -/
def toOperation (v : View) : Except Failure Operation := do
  let name ← v.field "name"
  let options ← v.field "options"
  let payload ← options.toPayload
  return { name := name.plain, options := .payload payload }

/-- The plain texts of what is seen as a row of pads. -/
def toPads (v : View) : Except Failure (List String) :=
  v.elements.map fun pads => pads.map plain

/-- What is seen as a stage. Its name is not written and left out. -/
def toStage (v : View) : Except Failure Stage := do
  let inputPads ← (← v.field "input_pads").toPads
  let operations ← (← (← v.field "operations").elements).mapM toOperation
  let outputPads ← (← v.field "output_pads").toPads
  return { inputPads, outputPads, operations }

/-- The pads that an output stream takes in; what is void counts as no pads. -/
def mappedPads (v : View) : Except Failure (List View) :=
  let pads := v.get "mapped_pads"
  if pads.isVoid then .ok [] else pads.elements

/-- The path of the output stream with the given index among the output streams. -/
def outputPath (index : Nat) (v : View) : Except Failure String :=
  let path := v.get "path"
  match path.characters? with
  | some s => .ok s
  | none => .error (.notPath index path.kind)

/-- A graph that is written like the graph of what is seen, its nodes ordered by what they are. -/
def toGraph (views : List View) : Except Failure Graph := do
  let inputs := (views.filter (isStream .input)).map fun v => Stream.reading (v.get "path").plain
  let stages ← (views.filter isStage).mapM toStage
  let outputs := views.filter (isStream .output)
  let pads ← outputs.mapM fun v => v.mappedPads.map fun pads => pads.map plain
  let paths ← outputs.zipIdx.mapM fun (v, index) => v.outputPath index
  let outputs := (paths.zip pads).map fun (path, pads) => Stream.writing path "" pads
  return inputs.map .stream ++ stages.map .stage ++ outputs.map .stream

end View

end FilterGraph.Store
