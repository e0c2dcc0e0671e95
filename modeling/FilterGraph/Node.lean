import FilterGraph.Options

/-!
# Nodes of a filter graph

A graph is a list of nodes in order. A stream is a file that is read or written; a stage reads from
input pads, applies a chain of operations and writes to output pads. A list of nodes may also hold
values that are neither, such as an operation outside a stage; they take no part in the graph, and
neither does a stream whose direction is not one of the two.
-/

set_option autoImplicit false

namespace FilterGraph

/-- Whether a stream is read or written. A direction may have been given as any other text, which
counts as neither. -/
inductive Direction where
  | input
  | output
  | other (label : String) (notKnown : label ≠ "input" ∧ label ≠ "output")
  deriving DecidableEq

namespace Direction

/-- The text of a direction. -/
def text : Direction → String
  | .input => "input"
  | .output => "output"
  | .other label _ => label

/-- The direction that a text stands for. -/
def ofText (label : String) : Direction :=
  if hi : label = "input" then .input
  else if ho : label = "output" then .output
  else .other label ⟨hi, ho⟩

/-- The direction that a value names; only the two known ones have names. -/
def named (value : Scalar) : Except Failure Direction :=
  match value with
  | .text "input" => .ok .input
  | .text "output" => .ok .output
  | value => .error (.notDirection value.shown)

/-- Every label keeps its text when it is read as a direction. -/
@[simp] theorem text_ofText (label : String) : (ofText label).text = label := by
  unfold ofText
  split
  · rename_i h
    exact h.symm
  · split
    · rename_i h
      exact h.symm
    · rfl

/-- A direction is read back from its text. -/
@[simp] theorem ofText_text (d : Direction) : ofText d.text = d := by
  cases d with
  | input => rfl
  | output => rfl
  | other label h => simp [ofText, text, h.1, h.2]

end Direction

/-- One filter of a stage's chain, with its options. -/
structure Operation where
  name : String
  options : Options := .empty

/-- An input or output file. -/
structure Stream where
  path : String
  name : String := ""
  direction : Direction := .input
  /-- The pads that an output stream takes in, if any have been given. -/
  mappedPads : Option (List String) := none
  deriving DecidableEq

/-- A chain of operations between pads. -/
structure Stage where
  name : String := ""
  inputPads : List String := []
  outputPads : List String := []
  operations : List Operation := []

/-- A member of a list of nodes. -/
inductive Node where
  | stream (stream : Stream)
  | stage (stage : Stage)
  | operation (operation : Operation)
  | value (value : Scalar)

/-- An operation whose options are made a payload first. -/
def Operation.coerced (name : String) (options : Options) : Except Failure Operation :=
  options.coerce.map fun payload => { name, options := .payload payload }

/-- The stream that reads a file. -/
def Stream.reading (path : String) (name : String := "") : Stream := { path, name }

/-- The stream that writes a file from some pads. -/
def Stream.writing (path : String) (name : String := "")
    (mappedPads : Option (List String) := none) : Stream :=
  { path, name, direction := .output, mappedPads }

/-- The pads that a stream takes in; none have been given counts as no pads. -/
def Stream.pads (s : Stream) : List String := s.mappedPads.getD []

namespace Node

/-- The node as an input stream. -/
def input? : Node → Option Stream
  | .stream s => if s.direction = .input then some s else none
  | _ => none

/-- The node as an output stream. -/
def output? : Node → Option Stream
  | .stream s => if s.direction = .output then some s else none
  | _ => none

/-- The node as a stage. -/
def stage? : Node → Option Stage
  | .stage s => some s
  | _ => none

/-- The kind of a node. -/
def kind : Node → Kind
  | .stream _ => .stream
  | .stage _ => .stage
  | .operation _ => .operation
  | .value v => v.kind

/-- The node, provided that it is a stream of any direction. -/
def asStream : Node → Except Failure Stream
  | .stream s => .ok s
  | node => .error (.notStream node.kind)

/-- The node, provided that it is a stage. -/
def asStage : Node → Except Failure Stage
  | .stage s => .ok s
  | node => .error (.notStage node.kind)

end Node

/-- A filter graph: its nodes in order. -/
abbrev Graph := List Node

namespace Graph

/-- The input streams in order. -/
def inputs (g : Graph) : List Stream := g.filterMap Node.input?

/-- The output streams in order. -/
def outputs (g : Graph) : List Stream := g.filterMap Node.output?

/-- The stages in order. -/
def stages (g : Graph) : List Stage := g.filterMap Node.stage?

/-- The pads that the output streams take in, in order. -/
def mappedPads (g : Graph) : List String := g.outputs.flatMap Stream.pads

/-- The positions in the graph of the nodes with a property. -/
def positions (g : Graph) (holds : Node → Bool) : List Nat :=
  (g.zipIdx.filter fun n => holds n.1).map Prod.snd

end Graph

end FilterGraph
