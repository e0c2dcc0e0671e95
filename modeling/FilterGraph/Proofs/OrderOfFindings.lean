import FilterGraph.Proofs.Arrangement
import FilterGraph.Proofs.Found

/-!
# Findings in any order

Validation does not depend on the order of a graph: it fails on both a graph and a rearranged one,
or gives a report of each, and the two reports have the same messages, each as often
(`Graph.validate_rearranges`).

The findings are a list of parts, and each part is the same up to order: those about a stage by
itself, those about the streams, and those about the uses of labels. The last ones depend on the
whole graph, but only through which labels there are and how often each is used, and an order
changes neither.
-/

set_option autoImplicit false

namespace FilterGraph

/-- The reports give the same verdict and have the same messages in some order. -/
structure Report.Rearranges (r t : Report) : Prop where
  valid : r.valid = t.valid
  errors : r.errors.Perm t.errors
  warnings : r.warnings.Perm t.warnings

/-! ### Stages and streams -/

/-- In rearranged stages the same is found, in some order. -/
theorem Stage.Rearranges.findings_perm {s t : Stage} (h : s.Rearranges t) :
    s.findings.Perm t.findings := by
  have hlabel : s.label = t.label := by rw [Stage.label, Stage.label, h.name]
  have hpads := (h.inputPads.append h.outputPads).flatMap_right padFindings
  have hoperations := h.operations.flatMap_right (Operation.findings t.label)
  unfold Stage.findings
  rw [hlabel, h.operations.isEmpty_eq]
  exact (hpads.append_right _).append hoperations

namespace Graph

variable {g h : Graph}

/-- In the streams of graphs with the same parts the same is found, in some order. -/
theorem SameParts.streamFindings_perm (hparts : g.SameParts h) :
    g.streamFindings.Perm h.streamFindings := by
  have hignored : ((g.inputs.filter (!·.pads.isEmpty)).map fun s =>
        Finding.remark (.mappedInput s.path)).Perm
      ((h.inputs.filter (!·.pads.isEmpty)).map fun s => .remark (.mappedInput s.path)) := by
    refine hparts.inputs.map_filter_perm ?_ ?_
    · intro s t hst
      rw [hst.pads_perm.isEmpty_eq]
    · intro s t hst
      rw [hst.path]
  have hunmapped : ((g.outputs.filter (·.pads.isEmpty)).map fun s =>
        Finding.defect (.unmappedOutput s.path)).Perm
      ((h.outputs.filter (·.pads.isEmpty)).map fun s => .defect (.unmappedOutput s.path)) := by
    refine hparts.outputs.map_filter_perm ?_ ?_
    · intro s t hst
      exact hst.pads_perm.isEmpty_eq
    · intro s t hst
      rw [hst.path]
  have hmapped := hparts.mappedPads_perm.flatMap_right padFindings
  unfold streamFindings
  refine (hignored.append hmapped).append ?_
  -- whether unmapped outputs matter depends on whether there are stages at all
  rw [hparts.stages.isEmpty_eq]
  split
  · exact .refl _
  · exact hunmapped

end Graph

/-! ### Uses of labels -/

/-- Texts in another order are the same texts with their repetitions left out, in another order. -/
theorem perm_eraseDups {labels others : List String} (h : labels.Perm others) :
    labels.eraseDups.Perm others.eraseDups := by
  -- each text is there once on both sides, so it only matters which ones there are
  rw [List.perm_ext_iff_of_nodup (nodup_eraseDups labels) (nodup_eraseDups others)]
  intro label
  rw [List.mem_eraseDups, List.mem_eraseDups, h.mem_iff]

namespace Pad.Uses

/-- The same labels are used in the same way, but for their order. -/
structure Rearranges (u v : Uses String) : Prop where
  produced : u.produced.Perm v.produced
  consumed : u.consumed.Perm v.consumed
  inputs : u.inputs = v.inputs

namespace Rearranges

variable {u v : Uses String}

/-- What is found about a label that is put out does not depend on the order of the uses. -/
theorem productionFindings_eq (h : u.Rearranges v) :
    u.productionFindings id = v.productionFindings id := by
  funext label
  -- a label is counted among the others and looked up, but its place is not asked for
  unfold productionFindings
  rw [h.produced.count_eq, h.consumed.contains_eq]

/-- What is found about a label that is taken in does not depend on the order of the uses. -/
theorem consumptionFound_eq (h : u.Rearranges v) : u.consumptionFound = v.consumptionFound := by
  funext label
  unfold consumptionFound sourceFindings
  simp only [h.produced.mem_iff, h.consumed.count_eq, h.inputs]

/-- From the same uses in another order the same is found, in some order. -/
theorem found_perm (h : u.Rearranges v) : u.found.Perm v.found := by
  unfold found
  rw [h.productionFindings_eq, h.consumptionFound_eq]
  exact ((perm_eraseDups h.produced).flatMap_right _).append
    ((perm_eraseDups h.consumed).flatMap_right _)

end Rearranges

end Pad.Uses

/-! ### Graphs -/

/-- Reports of the same findings in another order have the same messages in another order. -/
theorem Report.rearranges_ofFindings {findings others : List Finding}
    (h : findings.Perm others) : (Report.ofFindings findings).Rearranges (.ofFindings others) where
  valid := by
    rw [Report.valid_ofFindings, Report.valid_ofFindings, (h.filterMap _).isEmpty_eq]
  errors := by
    rw [Report.errors_ofFindings, Report.errors_ofFindings]
    exact h.filterMap _
  warnings := by
    rw [Report.warnings_ofFindings, Report.warnings_ofFindings]
    exact h.filterMap _

namespace Graph

variable {g h : Graph}

/-- In graphs with the same parts the labels are used in the same way, but for their order. -/
theorem SameParts.uses (hparts : g.SameParts h) : g.uses.Rearranges h.uses where
  produced := hparts.producedPads_perm
  consumed := hparts.consumedPads_perm
  inputs := hparts.inputs.length_eq

/-- In graphs with the same parts the same is found, in some order. -/
theorem SameParts.found_perm (hparts : g.SameParts h) : g.found.Perm h.found := by
  have hstages : (g.stages.flatMap Stage.findings).Perm (h.stages.flatMap Stage.findings) :=
    hparts.stages.flatMap_perm fun _ _ hst => hst.findings_perm
  unfold found
  rw [hparts.inputs.length_eq, hparts.outputs.length_eq]
  exact ((hstages.append_left _).append hparts.streamFindings_perm).append hparts.uses.found_perm

/-- In graphs with the same parts the same indices have to be read, so all of them can be read in
both or in neither. -/
theorem SameParts.hasReadableIndices_iff (hparts : g.SameParts h) :
    g.HasReadableIndices ↔ h.HasReadableIndices := by
  unfold HasReadableIndices
  simp only [hparts.consumedPads_perm.mem_iff, hparts.producedPads_perm.mem_iff]

/-- Validation fails when there is an index that has to be read and cannot be. -/
theorem exists_validate_eq_error (h : ¬ g.HasReadableIndices) :
    ∃ failure, g.validate = .error failure := by
  rw [Outcome.exists_eq_error_iff]
  rintro ⟨report, hreport⟩
  exact h ((g.validate_eq_ok_iff report).1 hreport).1

/-- Validation fails on both of two graphs with the same parts, or reports the same on both. -/
theorem SameParts.validate (hparts : g.SameParts h) :
    (∃ failure other, g.validate = .error failure ∧ h.validate = .error other) ∨
      ∃ report other, g.validate = .ok report ∧ h.validate = .ok other ∧
        report.Rearranges other := by
  by_cases hreadable : g.HasReadableIndices
  · right
    have hother := hparts.hasReadableIndices_iff.1 hreadable
    exact ⟨_, _, (g.validate_eq_ok_iff _).2 ⟨hreadable, rfl⟩,
      (h.validate_eq_ok_iff _).2 ⟨hother, rfl⟩, Report.rearranges_ofFindings hparts.found_perm⟩
  · left
    have hother := fun hreads => hreadable (hparts.hasReadableIndices_iff.2 hreads)
    obtain ⟨failure, hfailure⟩ := exists_validate_eq_error hreadable
    obtain ⟨other, hotherFailure⟩ := exists_validate_eq_error hother
    exact ⟨failure, other, hfailure, hotherFailure⟩

/-- **The order of a graph is no matter for its validation.** Validation fails on both a graph and a
rearranged one, or gives a report of each. The reports then give the same verdict and have the same
errors and the same warnings, each as often, in some order. -/
theorem validate_rearranges (hgh : g.Rearranges h) :
    (∃ failure other, g.validate = .error failure ∧ h.validate = .error other) ∨
      ∃ report other, g.validate = .ok report ∧ h.validate = .ok other ∧
        report.Rearranges other :=
  hgh.sameParts.validate

/-- A graph with three mistakes in its labels and operations. -/
def mistakenGraph : Graph :=
  [.stream (.reading "in.mp4"),
    .stage {
      name := "split"
      inputPads := ["0:v", "9"]
      outputPads := ["left", "right"]
      operations := [{ name := "split" }, { name := "" }] },
    .stream (.writing "out.mp4" "" (some ["left", "lost"]))]

/-- The same graph from its end to its start. -/
def mistakenGraphBackwards : Graph :=
  [.stream (.writing "out.mp4" "" (some ["lost", "left"])),
    .stage {
      name := "split"
      inputPads := ["9", "0:v"]
      outputPads := ["right", "left"]
      operations := [{ name := "" }, { name := "split" }] },
    .stream (.reading "in.mp4")]

/-- The mistakes are reported in another order backwards, but they are the same. -/
theorem rearranges_mistakenGraph :
    mistakenGraph.Rearranges mistakenGraphBackwards ∧
      ∃ report other, mistakenGraph.validate = .ok report ∧
        mistakenGraphBackwards.validate = .ok other ∧ report.errors ≠ other.errors ∧
        report.Rearranges other := by
  have hrearranges : mistakenGraph.Rearranges mistakenGraphBackwards := by
    refine ⟨mistakenGraph.reverse, (List.reverse_perm _).symm, ?_⟩
    refine .cons (.stream ?_) (.cons (.stage ?_) (.cons (.stream ?_) .nil))
    · exact ⟨rfl, rfl, rfl, .some (.swap _ _ _)⟩
    · exact ⟨rfl, .swap _ _ _, .swap _ _ _, .swap _ _ _⟩
    · exact ⟨rfl, rfl, rfl, .none⟩
  refine ⟨hrearranges, ?_⟩
  rcases validate_rearranges hrearranges with ⟨failure, other, hfailure, -⟩ |
      ⟨report, other, hreport, hother, hreports⟩
  · exact nomatch hfailure
  · refine ⟨report, other, hreport, hother, ?_, hreports⟩
    obtain rfl := Except.ok.inj hreport
    obtain rfl := Except.ok.inj hother
    decide

end Graph

end FilterGraph
