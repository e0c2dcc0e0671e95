import FilterGraph.Finding
import FilterGraph.Pad.Uses

/-!
# Validation of a graph

A graph is sound when its pads are well labelled and well wired: every label that is taken in is
the output of exactly one stage and taken in once, or names an input that the graph has. The
findings come in a fixed order: about the graph as a whole, about each stage by itself, about the
streams, and about the uses of each label.

Validation itself can fail: the index of an input is not read when it has too many digits.
-/

set_option autoImplicit false

namespace FilterGraph

/-- The pads that a node takes in. -/
def Node.consumedPads : Node → List String
  | .stage s => s.inputPads
  | .stream s => if s.direction = .output then s.pads else []
  | _ => []

/-- The findings about which streams there are at all. -/
def presenceFindings (inputs outputs : Nat) : List Finding :=
  (if inputs = 0 then [.remark .noInputs] else []) ++
    (if outputs = 0 then [.remark .noOutputs] else [])

/-- Refuse what has been validated unless it is valid. -/
def Report.screen (r : Report) : Except Failure Unit :=
  if r.valid then .ok () else .error (.refused r)

namespace Graph

/-- Every label that a stage outputs, in order and as often as it does. -/
def producedPads (g : Graph) : List String := g.stages.flatMap Stage.outputPads

/-- Every label that a stage or an output takes in, in order and as often as it does. -/
def consumedPads (g : Graph) : List String := g.flatMap Node.consumedPads

/-- The findings about the pads that the streams take in. -/
def streamFindings (g : Graph) : List Finding :=
  (g.inputs.filter (!·.pads.isEmpty)).map (fun s => .remark (.mappedInput s.path)) ++
    g.mappedPads.flatMap padFindings ++
    (if g.stages.isEmpty then []
    else (g.outputs.filter (·.pads.isEmpty)).map fun s => .defect (.unmappedOutput s.path))

/-- The uses of labels in a graph. -/
def uses (g : Graph) : Pad.Uses String where
  produced := g.producedPads
  consumed := g.consumedPads
  inputs := g.inputs.length

/-- Everything that is found in a graph, in order. -/
def findings (g : Graph) : Except Failure (List Finding) :=
  (g.uses.findings id Pad.inputIndex?).map fun useFindings =>
    presenceFindings g.inputs.length g.outputs.length ++ g.stages.flatMap Stage.findings ++
      g.streamFindings ++ useFindings

/-- The report on a graph. -/
def validate (g : Graph) : Except Failure Report := g.findings.map Report.ofFindings

/-- Refuse a graph whose report has defects, when the compilation is strict. -/
def screen (g : Graph) (strict : Bool) : Except Failure Unit :=
  if strict then do
    let report ← g.validate
    report.screen
  else .ok ()

end Graph

end FilterGraph
