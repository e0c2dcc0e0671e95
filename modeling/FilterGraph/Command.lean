import FilterGraph.Validation

/-!
# The command of a graph

A graph is compiled to the arguments of a command: an input flag for each input stream, the filter
graph, a map flag for each pad that an output takes in, and the paths of the outputs. The text of
the command quotes the filter graph and the pads, the list of arguments has each flag and each value
as an element of its own, and the annotated command explains each of them.

A strict compilation refuses a graph that does not validate. Otherwise the three fail alike, at the
first operation whose options have no text.
-/

set_option autoImplicit false

namespace FilterGraph

/-- What a flag of a command is for. -/
inductive FlagCategory where
  | input
  | filter
  | map
  | output
  deriving DecidableEq

/-- The word for what a flag is for. -/
def FlagCategory.text : FlagCategory → String
  | .input => "input"
  | .filter => "filter"
  | .map => "map"
  | .output => "output"

/-- A flag of a command with its explanation. -/
structure Annotation where
  flag : String
  explanation : String
  category : FlagCategory
  deriving DecidableEq

/-- The arguments of a command, and each of its flags explained. -/
structure AnnotatedCommand where
  arguments : List String
  annotations : List Annotation
  deriving DecidableEq

namespace Graph

/-! ### The sections of the command text -/

/-- The input flags, each with a blank after it. -/
def inputFlags (g : Graph) : String := String.join (g.inputs.map fun s => "-i " ++ s.path ++ " ")

/-- The flag for the filter graph. -/
def filterFlag (filters : String) : String := "-filter_complex '" ++ filters ++ "'"

/-- The map flags, each with a blank before it. -/
def mapFlags (g : Graph) : String :=
  String.join (g.mappedPads.map fun pad => " -map '" ++ padText pad ++ "'")

/-- The paths of the outputs with blanks between them. -/
def outputPaths (g : Graph) : String := String.intercalate " " (g.outputs.map Stream.path)

/-- The text of the command around the text of the filter graph. -/
def commandAround (g : Graph) (filters : String) : String :=
  g.inputFlags ++ filterFlag filters ++ g.mapFlags ++ " " ++ g.outputPaths

/-- The arguments of the command around the text of the filter graph. -/
def argumentsAround (g : Graph) (filters : String) : List String :=
  g.inputs.flatMap (fun s => ["-i", s.path]) ++ ["-filter_complex", filters] ++
    g.mappedPads.flatMap (fun pad => ["-map", padText pad]) ++ g.outputs.map Stream.path

/-- The command as text. -/
def command (g : Graph) (strict : Bool := false) : Except Failure String := do
  g.screen strict
  g.filterText.map g.commandAround

/-- The command as a list of arguments. -/
def arguments (g : Graph) (strict : Bool := false) : Except Failure (List String) := do
  g.screen strict
  g.filterText.map g.argumentsAround

/-- A lenient compilation asks nothing of a graph but a text for each stage. -/
theorem command_lenient (g : Graph) : g.command = g.filterText.map g.commandAround := rfl

/-- Lenient compilation to arguments validates nothing: it fails only where the filter graph has no
text. -/
theorem arguments_lenient (g : Graph) : g.arguments = g.filterText.map g.argumentsAround := rfl

/-! ### Annotations -/

/-- The explanation of a stage: its name if it has one, and its operations. -/
def stageExplanation (s : Stage) : String :=
  let label := if s.name = "" then "" else " '" ++ s.name ++ "'"
  if s.operations.isEmpty then "Filter stage" ++ label ++ " with no filters"
  else
    "Filter stage" ++ label ++ ": " ++ String.intercalate " -> " (s.operations.map Operation.name)

/-- The annotations of the input flags. -/
def explainInputs (g : Graph) : List Annotation :=
  g.inputs.zipIdx.map fun (s, index) =>
    { flag := "-i " ++ s.path
      explanation := "Input " ++ index.repr ++ ": " ++ s.path
      category := .input }

/-- The annotation of a stage with the given text. -/
def explainStage (s : Stage) (text : String) : Annotation :=
  { flag := text, explanation := stageExplanation s, category := .filter }

/-- The annotations of the map flags. -/
def explainMaps (g : Graph) : List Annotation :=
  g.mappedPads.map fun pad =>
    { flag := "-map " ++ padText pad
      explanation := "Route filter pad '" ++ pad ++ "' to the output"
      category := .map }

/-- The annotations of the output paths. -/
def explainOutputs (g : Graph) : List Annotation :=
  g.outputs.map fun s =>
    { flag := s.path, explanation := "Output file: " ++ s.path, category := .output }

/-- The command with each flag explained. -/
def annotate (g : Graph) : Except Failure AnnotatedCommand := do
  let arguments ← g.arguments
  let stages ← g.stages.mapM fun s => s.render.map (explainStage s)
  return {
    arguments
    annotations := g.explainInputs ++ stages ++ g.explainMaps ++ g.explainOutputs }

end Graph

end FilterGraph
