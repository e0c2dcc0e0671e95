import FilterGraph.Proofs.OrderOfFindings
import FilterGraph.Proofs.Precedence
import FilterGraph.Proofs.Soundness

/-!
# Graphs that mix the same nodes differently

A graph may mix its inputs, its stages and its outputs in any way, and may hold members that take no
part in it. Two graphs select the same when they have the same inputs, the same stages and the same
outputs, each in the same order (`Graph.SelectsSame`). Leniently they are compiled and annotated
alike.

A strict compilation validates first, and validation does go through a graph in its order: what the
stages and what the outputs take in is looked at node by node. Its verdict does not depend on that
(`Graph.SelectsSame.strictly_akin`), only the order of the messages does, or which of several
indices with too many digits is read first.
-/

set_option autoImplicit false

namespace FilterGraph

/-- Failures of one cause that may tell of it differently: refusals have the same messages in some
order, and too long an index need not be the same one. -/
inductive Failure.Akin : Failure → Failure → Prop where
  | same (failure : Failure) : Akin failure failure
  | longIndex (digits others : Nat) : Akin (.longIndex digits) (.longIndex others)
  | refused {report other : Report} (h : report.Rearranges other) :
      Akin (.refused report) (.refused other)

/-- The outcomes are the same value, or failures of one cause. -/
def Outcome.Akin {α : Type} (outcome other : Except Failure α) : Prop :=
  (∃ value, outcome = .ok value ∧ other = .ok value) ∨
    ∃ failure otherFailure, outcome = .error failure ∧ other = .error otherFailure ∧
      failure.Akin otherFailure

/-- An outcome is akin to itself. -/
theorem Outcome.Akin.refl {α : Type} (outcome : Except Failure α) : Akin outcome outcome := by
  cases outcome with
  | ok value => exact .inl ⟨value, rfl, rfl⟩
  | error failure => exact .inr ⟨failure, failure, rfl, rfl, .same failure⟩

namespace Graph

variable {g h : Graph}

/-- The graphs have the same inputs, the same outputs and the same stages, in the same order. -/
structure SelectsSame (g h : Graph) : Prop where
  inputs : g.inputs = h.inputs
  outputs : g.outputs = h.outputs
  stages : g.stages = h.stages

/-! Around the filter graph a command depends on the streams only. -/

/-- The pads that a command maps depend on the outputs only. -/
theorem mappedPads_congr (houtputs : g.outputs = h.outputs) : g.mappedPads = h.mappedPads := by
  unfold mappedPads
  rw [houtputs]

/-- What a command has around the filter graph depends on the inputs and the outputs only. -/
theorem commandAround_congr (hinputs : g.inputs = h.inputs) (houtputs : g.outputs = h.outputs) :
    g.commandAround = h.commandAround := by
  funext filters
  unfold commandAround inputFlags mapFlags outputPaths
  rw [hinputs, mappedPads_congr houtputs, houtputs]

/-- What the arguments have around the filter graph depends on the inputs and the outputs only. -/
theorem argumentsAround_congr (hinputs : g.inputs = h.inputs) (houtputs : g.outputs = h.outputs) :
    g.argumentsAround = h.argumentsAround := by
  funext filters
  unfold argumentsAround
  rw [hinputs, mappedPads_congr houtputs, houtputs]

namespace SelectsSame

/-- Graphs that select the same map the same pads. -/
theorem mappedPads (hgh : g.SelectsSame h) : g.mappedPads = h.mappedPads :=
  mappedPads_congr hgh.outputs

/-- Graphs that select the same have the same filter graph, or the same failure instead. -/
theorem filterText (hgh : g.SelectsSame h) : g.filterText = h.filterText := by
  unfold Graph.filterText stageTexts
  rw [hgh.stages]

/-- Graphs that select the same have the same command. -/
theorem command (hgh : g.SelectsSame h) : g.command = h.command := by
  rw [command_lenient, command_lenient, hgh.filterText, commandAround_congr hgh.inputs hgh.outputs]

/-- Graphs that select the same have the same arguments. -/
theorem arguments (hgh : g.SelectsSame h) : g.arguments = h.arguments := by
  rw [arguments_lenient, arguments_lenient, hgh.filterText,
    argumentsAround_congr hgh.inputs hgh.outputs]

/-- Graphs that select the same have the same annotations. -/
theorem annotate (hgh : g.SelectsSame h) : g.annotate = h.annotate := by
  unfold Graph.annotate explainInputs explainMaps explainOutputs
  rw [hgh.arguments, hgh.inputs, hgh.mappedPads, hgh.outputs, hgh.stages]

/-- Graphs that select the same have the same parts, and these even in the same order. -/
theorem sameParts (hgh : g.SelectsSame h) : g.SameParts h where
  inputs := by
    rw [hgh.inputs]
    exact .refl Stream.Rearranges.refl _
  outputs := by
    rw [hgh.outputs]
    exact .refl Stream.Rearranges.refl _
  stages := by
    rw [hgh.stages]
    exact .refl Stage.Rearranges.refl _

/-- What comes after a strict validation is reached on both graphs or on none, and the failures that
keep from it are of one cause. -/
theorem strictly_akin {α : Type} (hgh : g.SelectsSame h) (lenient : Except Failure α) :
    Outcome.Akin (g.strictly lenient) (h.strictly lenient) := by
  unfold strictly
  rcases hgh.sameParts.validate with ⟨failure, other, hfailure, hother⟩ |
      ⟨report, other, hreport, hother, hreports⟩
  · obtain ⟨_, _, _, digits, _, _, rfl⟩ := g.exists_of_validate_eq_error hfailure
    obtain ⟨_, _, _, others, _, _, rfl⟩ := h.exists_of_validate_eq_error hother
    rw [hfailure, hother]
    exact .inr ⟨_, _, rfl, rfl, .longIndex digits.length others.length⟩
  · rw [hreport, hother]
    dsimp only
    -- a list of errors is empty in any order or in none
    have hempty : report.errors = [] ↔ other.errors = [] := by
      rw [← List.length_eq_zero_iff, ← List.length_eq_zero_iff, hreports.errors.length_eq]
    by_cases herrors : report.errors = []
    · rw [if_pos herrors, if_pos (hempty.1 herrors)]
      exact .refl lenient
    · rw [if_neg herrors, if_neg (herrors ∘ hempty.2)]
      exact .inr ⟨_, _, rfl, rfl, .refused hreports⟩

end SelectsSame

/-- **Only the order within each kind of node matters.** Two graphs that select the same inputs,
outputs and stages compile to the same text and the same arguments and are annotated alike, with the
same failure if they fail. Compiled strictly, both give the same value, or both fail for one cause,
and refusals have the same errors and the same warnings in some order. If the graphs are even the
same once the members that take no part are left out of both, then they validate alike, with their
errors and warnings in the same order. -/
theorem outcomes_of_selectsSame (g h : Graph) :
    (g.SelectsSame h → g.command = h.command ∧ g.arguments = h.arguments ∧
      g.annotate = h.annotate ∧ Outcome.Akin (g.command true) (h.command true) ∧
      Outcome.Akin (g.arguments true) (h.arguments true)) ∧
    (g.partsOf = h.partsOf → g.validate = h.validate) := by
  constructor
  · intro hgh
    have hstrict : ∀ {α : Type} (lenient : Except Failure α),
        Outcome.Akin (do g.screen true; lenient) (do h.screen true; lenient) := by
      intro α lenient
      rw [screen_bind_eq_strictly, screen_bind_eq_strictly]
      exact hgh.strictly_akin lenient
    refine ⟨hgh.command, hgh.arguments, hgh.annotate, ?_, ?_⟩
    · show Outcome.Akin (do g.screen true; g.command) (do h.screen true; h.command)
      rw [hgh.command]
      exact hstrict h.command
    · show Outcome.Akin (do g.screen true; g.arguments) (do h.screen true; h.arguments)
      rw [hgh.arguments]
      exact hstrict h.arguments
  · intro hparts
    rw [← validate_partsOf, hparts, validate_partsOf]

/-- A graph with two labels that nothing stands for, one for a stage and one for an output. -/
def gatheredGraph : Graph :=
  [.stream (.reading "in.mp4"),
    .stage {
      inputPads := ["0:v", "logo"]
      outputPads := ["v"]
      operations := [{ name := "overlay" }] },
    .stream (.writing "out.mp4" "" (some ["v", "sound"]))]

/-- The same graph backwards, with a note and a stream of no direction in between. -/
def scatteredGraph : Graph :=
  [.stream (.writing "out.mp4" "" (some ["v", "sound"])),
    .value (.text "logo on top"),
    .stage {
      inputPads := ["0:v", "logo"]
      outputPads := ["v"]
      operations := [{ name := "overlay" }] },
    .stream { path := "aside.mp4", direction := .ofText "aside" },
    .stream (.reading "in.mp4")]

/-- The two graphs have the same command, and strictly they are refused with their errors in
different orders. Leaving out the note and the stream of no direction changes no report. -/
theorem outcomes_scatteredGraph :
    gatheredGraph.SelectsSame scatteredGraph ∧ gatheredGraph.command = scatteredGraph.command ∧
    (∃ report other, gatheredGraph.command true = .error (.refused report) ∧
      scatteredGraph.command true = .error (.refused other) ∧ report.errors ≠ other.errors ∧
      report.Rearranges other) ∧
    scatteredGraph.partsOf.partsOf = scatteredGraph.partsOf ∧
    scatteredGraph.partsOf.validate = scatteredGraph.validate := by
  have hselects : gatheredGraph.SelectsSame scatteredGraph := ⟨rfl, rfl, rfl⟩
  obtain ⟨hcommand, -, -, hstrict, -⟩ := (outcomes_of_selectsSame _ _).1 hselects
  have hparts : scatteredGraph.partsOf.partsOf = scatteredGraph.partsOf := rfl
  refine ⟨hselects, hcommand, ?_, hparts, (outcomes_of_selectsSame _ _).2 hparts⟩
  rcases hstrict with ⟨value, hvalue, -⟩ | ⟨failure, other, hfailure, hother, hakin⟩
  · exact nomatch hvalue
  · obtain rfl := Except.error.inj hfailure
    obtain rfl := Except.error.inj hother
    cases hakin with
    | refused hreports => exact ⟨_, _, rfl, rfl, by decide, hreports⟩

end Graph

end FilterGraph
