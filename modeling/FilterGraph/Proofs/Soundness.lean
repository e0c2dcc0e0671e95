import FilterGraph.Proofs.Defects
import FilterGraph.Proofs.Found

/-!
# Validation finds exactly the unsound graphs

As long as every index can be read, validating a graph gives a report, and the report is valid
exactly when the graph is sound (`Graph.validate_valid_iff_sound`). The findings are a list of
parts, so this is put together from what the parts say: `FilterGraph.Proofs.Defects` for labels,
stages and streams, and the lemmas about `Pad.Uses` here for the wiring.

Members of a graph that are neither streams of a known direction nor stages take no part in this:
`Graph.validate_partsOf` takes them out.
-/

set_option autoImplicit false

namespace FilterGraph

namespace Pad.Uses

variable (u : Uses String)

/-- There is no defect in how a label is put out if it is put out once at most. -/
theorem noDefect_productionFindings_iff (label : String) :
    NoDefect (u.productionFindings id label) ↔ u.produced.count label ≤ 1 := by
  unfold productionFindings
  rw [NoDefect.append_iff, NoDefect.ite_defect_iff]
  constructor
  · rintro ⟨hcount, -⟩
    omega
  · intro hcount
    refine ⟨by omega, ?_⟩
    split
    · exact NoDefect.nil
    · exact NoDefect.remark _

/-- Nothing is wrong with where a label comes from that no stage outputs exactly when it names an
input that there is. -/
theorem noDefect_sourceFindings_iff (label : String) :
    NoDefect (u.sourceFindings id label (namedInput? label)) ↔ NamesInput u.inputs label := by
  unfold namedInput?
  cases hdigits : specifierDigits? label with
  | none =>
    have hnone := (specifierDigits?_eq_none_iff label).1 hdigits
    constructor
    · intro h
      exact absurd h (NoDefect.not_defect _)
    · rintro ⟨digits, hspecifies, -⟩
      exact absurd hspecifies (hnone digits)
  | some digits =>
    have hspecifies := (specifierDigits?_eq_some_iff label digits).1 hdigits
    simp only [Option.map_some, sourceFindings, NoDefect.ite_defect_iff]
    constructor
    · intro hbelow
      exact ⟨digits, hspecifies, by omega⟩
    · rintro ⟨others, hothers, hbelow⟩
      rw [← hspecifies.digits_eq hothers] at hbelow
      omega

/-- Nothing is wrong with a label that is taken in exactly when it is a stage output that is taken
in once, or names an input that there is. -/
theorem noDefect_consumptionFound_iff (label : String) :
    NoDefect (u.consumptionFound label) ↔
      (label ∈ u.produced → u.consumed.count label ≤ 1) ∧
        (label ∉ u.produced → NamesInput u.inputs label) := by
  unfold consumptionFound
  by_cases hproduced : label ∈ u.produced
  · simp [hproduced]
  · simp [hproduced, noDefect_sourceFindings_iff]

/-- Nothing is wrong with the wiring exactly when no label is output twice, no stage output is taken
in twice, and every other label that is taken in names an input that there is. -/
theorem noDefect_found_iff :
    NoDefect u.found ↔
      u.produced.Nodup ∧ (∀ label ∈ u.produced, u.consumed.count label ≤ 1) ∧
        ∀ label ∈ u.consumed, label ∉ u.produced → NamesInput u.inputs label := by
  unfold found
  simp only [NoDefect.append_iff, NoDefect.flatMap_iff, List.mem_eraseDups,
    noDefect_productionFindings_iff, noDefect_consumptionFound_iff]
  constructor
  · rintro ⟨hproduced, hconsumed⟩
    refine ⟨List.nodup_iff_count.2 ?_, ?_, ?_⟩
    · intro label
      -- findings are only made about labels that occur, so the others are counted by hand
      by_cases hmem : label ∈ u.produced
      · exact hproduced label hmem
      · simp [List.count_eq_zero_of_not_mem hmem]
    · intro label hlabel
      by_cases hmem : label ∈ u.consumed
      · exact (hconsumed label hmem).1 hlabel
      · simp [List.count_eq_zero_of_not_mem hmem]
    · intro label hlabel
      exact (hconsumed label hlabel).2
  · rintro ⟨hnodup, honce, hsources⟩
    refine ⟨fun label _ => List.nodup_iff_count.1 hnodup label, ?_⟩
    intro label hlabel
    exact ⟨honce label, hsources label hlabel⟩

end Pad.Uses

namespace Graph

variable (g : Graph)

/-- A graph is sound exactly when no defect is found in it. -/
theorem noDefect_found_iff : NoDefect g.found ↔ g.Sound := by
  have huses := g.uses.noDefect_found_iff
  unfold found
  rw [NoDefect.append_iff, NoDefect.append_iff, NoDefect.append_iff, NoDefect.flatMap_iff,
    noDefect_streamFindings_iff, huses]
  simp only [noDefect_presenceFindings, true_and, Stage.noDefect_findings_iff]
  constructor
  · rintro ⟨⟨hstages, hmapped, houtputs⟩, hnodup, honce, hsources⟩
    exact {
      stageLabels := fun s hs => (hstages s hs).1
      mappedLabels := hmapped
      namedOperations := fun s hs => (hstages s hs).2
      mappedOutputs := houtputs
      producedOnce := hnodup
      consumedOnce := honce
      knownSources := hsources }
  · intro h
    exact ⟨⟨fun s hs => ⟨h.stageLabels s hs, h.namedOperations s hs⟩, h.mappedLabels,
      h.mappedOutputs⟩, h.producedOnce, h.consumedOnce, h.knownSources⟩

/-! ### Members that take no part -/

/-- The members of a graph that take part in it: streams of a known direction, and stages. -/
def partsOf : Graph := g.filter fun n => n.input?.isSome || n.output?.isSome || n.stage?.isSome

/-- Taking out the other members changes no list to which they contribute nothing. -/
theorem flatMap_partsOf {α : Type} (give : Node → List α)
    (h : ∀ n, n.input? = none → n.output? = none → n.stage? = none → give n = []) :
    g.partsOf.flatMap give = g.flatMap give := by
  unfold partsOf
  induction g with
  | nil => rfl
  | cons n rest ih =>
    rw [List.filter_cons]
    split
    · rw [List.flatMap_cons, List.flatMap_cons, ih]
    · rename_i hother
      simp only [Bool.or_eq_true, not_or, Option.not_isSome_iff_eq_none] at hother
      rw [List.flatMap_cons, h n hother.1.1 hother.1.2 hother.2, List.nil_append, ih]

/-- The parts of a graph include all its inputs. -/
@[simp] theorem inputs_partsOf : g.partsOf.inputs = g.inputs := by
  unfold inputs
  rw [List.filterMap_eq_flatMap_toList, List.filterMap_eq_flatMap_toList]
  apply flatMap_partsOf
  intro n hinput _ _
  rw [hinput]
  rfl

/-- The parts of a graph include all its outputs. -/
@[simp] theorem outputs_partsOf : g.partsOf.outputs = g.outputs := by
  unfold outputs
  rw [List.filterMap_eq_flatMap_toList, List.filterMap_eq_flatMap_toList]
  apply flatMap_partsOf
  intro n _ houtput _
  rw [houtput]
  rfl

/-- The parts of a graph include all its stages. -/
@[simp] theorem stages_partsOf : g.partsOf.stages = g.stages := by
  unfold stages
  rw [List.filterMap_eq_flatMap_toList, List.filterMap_eq_flatMap_toList]
  apply flatMap_partsOf
  intro n _ _ hstage
  rw [hstage]
  rfl

/-- The parts of a graph take in all that the graph takes in. -/
@[simp] theorem consumedPads_partsOf : g.partsOf.consumedPads = g.consumedPads := by
  unfold consumedPads
  apply flatMap_partsOf
  intro n _ houtput hstage
  cases n with
  | stream s =>
    have hdirection : s.direction ≠ .output := by simpa [Node.output?] using houtput
    simp [Node.consumedPads, hdirection]
  | stage s => simp [Node.stage?] at hstage
  | operation o => rfl
  | value v => rfl

/-- Validation does not see the members that take no part. -/
theorem validate_partsOf : g.partsOf.validate = g.validate := by
  simp only [validate, findings, streamFindings, uses, producedPads, mappedPads, inputs_partsOf,
    outputs_partsOf, stages_partsOf, consumedPads_partsOf]

/-- **Validation is exact.** If no label that is taken in starts with more digits than an index may
have, then validating the graph gives a report. The report is valid exactly when it has no errors,
it has no errors exactly when the graph is sound, and the members that are neither streams of a
known direction nor stages play no part in it. -/
theorem validate_valid_iff_sound
    (hshort : ∀ pad ∈ g.consumedPads,
      (pad.toList.takeWhile Text.isDigit).length ≤ longestIndex) :
    ∃ report, g.validate = .ok report ∧ g.partsOf.validate = .ok report ∧
      (report.valid = true ↔ report.errors = []) ∧ (report.errors = [] ↔ g.Sound) := by
  have hreadable : g.HasReadableIndices := hasReadableIndices_of_short hshort
  have hvalidate : g.validate = .ok (.ofFindings g.found) :=
    (g.validate_eq_ok_iff _).2 ⟨hreadable, rfl⟩
  refine ⟨.ofFindings g.found, hvalidate, ?_, Report.valid_ofFindings_iff g.found, ?_⟩
  · rw [validate_partsOf, hvalidate]
  · rw [Report.errors_ofFindings_eq_nil_iff, noDefect_found_iff]

/-- A graph that lays one input over another, with a note between its nodes. -/
def overlayGraph : Graph :=
  [.stream (.reading "base.mp4"), .stream (.reading "logo.png"), .value (.text "logo on top"),
    .stage {
      name := "overlay"
      inputPads := ["0:v", "1"]
      outputPads := ["out"]
      operations := [{ name := "overlay", options := .payload (.raw "x=5") }] },
    .stream (.writing "result.mp4" "" (some ["out"]))]

/-- The graph validates without any findings, and so it is sound. -/
theorem overlayGraph_sound :
    (∀ pad ∈ overlayGraph.consumedPads,
      (pad.toList.takeWhile Text.isDigit).length ≤ longestIndex) ∧
    overlayGraph.validate = .ok {} ∧ overlayGraph.Sound := by
  have hshort : ∀ pad ∈ overlayGraph.consumedPads,
      (pad.toList.takeWhile Text.isDigit).length ≤ longestIndex := by decide
  have hvalidate : overlayGraph.validate = .ok {} := rfl
  obtain ⟨report, hreport, -, -, hsound⟩ := overlayGraph.validate_valid_iff_sound hshort
  obtain rfl : report = {} := Except.ok.inj (hreport.symm.trans hvalidate)
  exact ⟨hshort, hvalidate, hsound.1 rfl⟩

end Graph

end FilterGraph
