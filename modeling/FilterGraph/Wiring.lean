import FilterGraph.Validation

/-!
# Sound graphs

What a graph has to be like in order to validate, said without looking for findings: labels can be
written, operations have names, outputs take in something as soon as there are stages, and every
label that is taken in comes from exactly one place and goes to exactly one place, or names an input
stream of the graph.
-/

set_option autoImplicit false

namespace FilterGraph

/-- A label that can be written in the text of a filter graph: it is not empty and holds none of the
characters that end a label, an operation or a stage there. -/
structure IsLabel (pad : String) : Prop where
  notEmpty : pad ≠ ""
  unreserved : ∀ c ∈ pad.toList, c ≠ ',' ∧ c ≠ ';' ∧ c ≠ '[' ∧ c ≠ ']'

/-- A label that names a stream of one of the given number of inputs. -/
def NamesInput (inputs : Nat) (pad : String) : Prop :=
  ∃ digits, Pad.Specifies digits pad ∧ Text.numberOfDigits digits < inputs

/-- A graph in which nothing stands in the way of its use. -/
structure Graph.Sound (g : Graph) : Prop where
  stageLabels : ∀ s ∈ g.stages, ∀ pad ∈ s.inputPads ++ s.outputPads, IsLabel pad
  mappedLabels : ∀ pad ∈ g.mappedPads, IsLabel pad
  namedOperations : ∀ s ∈ g.stages, ∀ o ∈ s.operations, o.name ≠ ""
  mappedOutputs : g.stages ≠ [] → ∀ s ∈ g.outputs, s.pads ≠ []
  producedOnce : g.producedPads.Nodup
  consumedOnce : ∀ pad ∈ g.producedPads, g.consumedPads.count pad ≤ 1
  knownSources : ∀ pad ∈ g.consumedPads, pad ∉ g.producedPads → NamesInput g.inputs.length pad

end FilterGraph
