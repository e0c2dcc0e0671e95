import FilterGraph.Node

/-!
# The text of a stage

A stage is written as its input pads, its operations with commas between them, and its output pads;
a pad is written in square brackets and an operation as its name, an equals sign and its options.
The only thing that has no text is an operation with a loose value for its options, so writing
fails at the first of these.
-/

set_option autoImplicit false

namespace FilterGraph

/-- A pad in brackets. -/
def padText (pad : String) : String := "[" ++ pad ++ "]"

/-- Pads in brackets, one after the other. -/
def padsText (pads : List String) : String := String.join (pads.map padText)

/-- The text of one operation. -/
def Operation.render (o : Operation) : Except Failure String :=
  o.options.render.map fun text => o.name ++ "=" ++ text

/-- The text of a chain of operations. -/
def Operation.renderChain (operations : List Operation) : Except Failure String :=
  (operations.mapM Operation.render).map (String.intercalate ",")

/-- The text of a stage. -/
def Stage.render (s : Stage) : Except Failure String :=
  (Operation.renderChain s.operations).map fun chain =>
    padsText s.inputPads ++ chain ++ padsText s.outputPads

/-- The texts of the stages in order. -/
def Graph.stageTexts (g : Graph) : Except Failure (List String) := g.stages.mapM Stage.render

/-- The text of the whole filter graph: its stages with semicolons between them. -/
def Graph.filterText (g : Graph) : Except Failure String :=
  g.stageTexts.map (String.intercalate ";")

end FilterGraph
