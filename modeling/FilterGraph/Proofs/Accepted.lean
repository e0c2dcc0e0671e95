import FilterGraph.Proofs.Soundness

/-!
# What acceptance says about labels

A graph is accepted when validating it gives a report without errors. That is so exactly when the
indices can be read and the graph is sound (`Graph.accepted_iff`), so what acceptance guarantees
about a label that is taken in is read off from soundness:

* a label that names an input stands for one that the graph has, unless a stage outputs the same
  label (`Graph.Accepted.index_lt_of_notMem_produced`);
* a label that no stage outputs is an index of the graph, alone or with a selector, unless it is an
  index with a line feed after it (`Graph.Accepted.isReference_iff`).

Both exceptions occur. A label that one stage outputs and one output takes in is accepted whatever
it is, as long as it can be written (`Graph.accepted_relayGraph`), and the index of a label may end
in a line feed (`Graph.accepted_lineFeedGraph`).
-/

set_option autoImplicit false

namespace FilterGraph

/-- Validation reports no errors. -/
def Graph.Accepted (g : Graph) : Prop := ∃ report, g.validate = .ok report ∧ report.errors = []

namespace Pad

/-- The label, as a whole, is an index below the given number of inputs, alone or with a colon and a
selector after it. -/
def IsReference (inputs : Nat) (pad : String) : Prop :=
  ∃ digits selection, pad.toList = digits ++ selection ∧
    digits ≠ [] ∧ (∀ c ∈ digits, Text.isDigit c = true) ∧ Text.numberOfDigits digits < inputs ∧
    (selection = [] ∨ ∃ selector, selector ≠ [] ∧ selection = ':' :: selector)

/-- The label is an index with a line feed after it. -/
def IsIndexLine (pad : String) : Prop :=
  ∃ digits, (∀ c ∈ digits, Text.isDigit c = true) ∧ pad.toList = digits ++ ['\n']

/-- A row of digits does not hold a character that is no digit. -/
theorem notMem_of_isDigit_eq_false {digits : List Char}
    (hdigits : ∀ c ∈ digits, Text.isDigit c = true) {c : Char} (hc : Text.isDigit c = false) :
    c ∉ digits := by
  intro hmem
  rw [hdigits c hmem] at hc
  exact absurd hc (by decide)

/-- An index with a line feed after it is no reference, however many inputs there are: neither the
digits nor the start of a selector can take in the line feed. -/
theorem IsIndexLine.not_isReference {pad : String} (h : IsIndexLine pad) (inputs : Nat) :
    ¬ IsReference inputs pad := by
  obtain ⟨others, hothers, hline⟩ := h
  rintro ⟨digits, selection, hpad, -, hdigits, -, rfl | ⟨selector, -, rfl⟩⟩
  · have hend : '\n' ∈ digits := by
      have hmem : '\n' ∈ pad.toList := by simp [hline]
      simpa [hpad] using hmem
    exact notMem_of_isDigit_eq_false hdigits Text.isDigit_lineFeed hend
  · have hcolon : ':' ∈ others := by
      have hmem : ':' ∈ pad.toList := by simp [hpad]
      simpa [hline] using hmem
    exact notMem_of_isDigit_eq_false hothers Text.isDigit_colon hcolon

end Pad

/-- What names an input is a reference to it, unless it is an index with a line feed after it. -/
theorem NamesInput.isReference {inputs : Nat} {pad : String} (h : NamesInput inputs pad)
    (hline : ¬ Pad.IsIndexLine pad) : Pad.IsReference inputs pad := by
  obtain ⟨digits, ⟨hne, hdigits, selection, hselection, hpad⟩, hbelow⟩ := h
  rcases hpad with hpad | hpad
  · refine ⟨digits, selection, hpad, hne, hdigits, hbelow, ?_⟩
    rcases hselection with hselection | ⟨selector, hselection, hselector, -⟩
    · exact .inl hselection
    · exact .inr ⟨selector, hselector, hselection⟩
  · -- the line feed at the end belongs to the selector, if there is one
    rcases hselection with rfl | ⟨selector, rfl, -, -⟩
    · rw [List.append_nil] at hpad
      exact absurd ⟨digits, hdigits, hpad⟩ hline
    · refine ⟨digits, ':' :: (selector ++ ['\n']), ?_, hne, hdigits, hbelow, ?_⟩
      · rw [hpad, List.append_assoc, List.cons_append]
      · exact .inr ⟨selector ++ ['\n'], by simp, rfl⟩

/-- What names an input holds no line feed before its last character. -/
theorem NamesInput.lineFeed_notMem_dropLast {inputs : Nat} {pad : String}
    (h : NamesInput inputs pad) : '\n' ∉ pad.toList.dropLast := by
  obtain ⟨digits, ⟨-, hdigits, selection, hselection, hpad⟩, -⟩ := h
  have hfree : '\n' ∉ digits ++ selection := by
    intro hmem
    rcases List.mem_append.1 hmem with hmem | hmem
    · exact Pad.notMem_of_isDigit_eq_false hdigits Text.isDigit_lineFeed hmem
    · rcases hselection with rfl | ⟨selector, rfl, -, hselector⟩
      · exact absurd hmem List.not_mem_nil
      · exact hselector (by simpa using hmem)
  rcases hpad with hpad | hpad
  · rw [hpad]
    exact fun hmem => hfree (List.dropLast_subset _ hmem)
  · rw [hpad, List.dropLast_concat]
    exact hfree

namespace Graph

variable {g : Graph}

/-- A graph is accepted exactly when the indices that have to be read can be and it is sound. -/
theorem accepted_iff : g.Accepted ↔ g.HasReadableIndices ∧ g.Sound := by
  unfold Accepted
  simp only [validate_eq_ok_iff]
  constructor
  · rintro ⟨_, ⟨hreadable, rfl⟩, herrors⟩
    have hnone := (Report.errors_ofFindings_eq_nil_iff g.found).1 herrors
    exact ⟨hreadable, g.noDefect_found_iff.1 hnone⟩
  · rintro ⟨hreadable, hsound⟩
    have hnone := g.noDefect_found_iff.2 hsound
    exact ⟨_, ⟨hreadable, rfl⟩, (Report.errors_ofFindings_eq_nil_iff g.found).2 hnone⟩

/-! ### Labels that name an input -/

/-- **Acceptance bounds the index of a label unless a stage outputs the label.** Every label that is
taken in and is an input specifier has an index, and in an accepted graph the index is below the
number of inputs as long as no stage outputs the same label. -/
theorem Accepted.index_lt_of_notMem_produced (h : g.Accepted) :
    ∀ pad ∈ g.consumedPads, Pad.isSpecifier pad = true →
      ∃ digits, Pad.Specifies digits pad ∧
        (pad ∉ g.producedPads → Text.numberOfDigits digits < g.inputs.length) := by
  intro pad hpad hspecifier
  obtain ⟨digits, hdigits⟩ := Option.isSome_iff_exists.1 hspecifier
  have hspecifies := (Pad.specifierDigits?_eq_some_iff pad digits).1 hdigits
  refine ⟨digits, hspecifies, ?_⟩
  intro hproduced
  obtain ⟨others, hothers, hbelow⟩ := (accepted_iff.1 h).2.knownSources pad hpad hproduced
  rw [hspecifies.digits_eq hothers]
  exact hbelow

/-- The graph that lays one input over another names its second input, within bounds. -/
theorem index_lt_overlayGraph :
    overlayGraph.Accepted ∧ ∃ digits, Pad.Specifies digits "1" ∧
      Text.numberOfDigits digits < overlayGraph.inputs.length := by
  have haccepted : overlayGraph.Accepted := ⟨{}, rfl, rfl⟩
  have htaken : "1" ∈ overlayGraph.consumedPads := by decide
  have hproduced : "1" ∉ overlayGraph.producedPads := by decide
  obtain ⟨digits, hspecifies, hbelow⟩ :=
    haccepted.index_lt_of_notMem_produced "1" htaken rfl
  exact ⟨haccepted, digits, hspecifies, hbelow hproduced⟩

/-- A graph that passes one label from a stage to an output. -/
def relayGraph (label : String) : Graph :=
  [.stream (.reading "in.mp4"),
    .stage {
      inputPads := ["0:v"]
      outputPads := [label]
      operations := [{ name := "hflip" }] },
    .stream (.writing "out.mp4" "" (some [label]))]

/-- The label of a stage output is accepted whatever it names, as long as it can be written. -/
theorem accepted_relayGraph {label : String} (hlabel : IsLabel label) (hne : label ≠ "0:v") :
    (relayGraph label).Accepted := by
  have hproduced : (relayGraph label).producedPads = [label] := rfl
  have hconsumed : (relayGraph label).consumedPads = ["0:v", label] := rfl
  have hmapped : (relayGraph label).mappedPads = [label] := rfl
  have hstages : (relayGraph label).stages =
    [{ inputPads := ["0:v"], outputPads := [label], operations := [{ name := "hflip" }] }] := rfl
  have houtputs : (relayGraph label).outputs = [.writing "out.mp4" "" (some [label])] := rfl
  have hfirst : IsLabel "0:v" := (padReport_valid_iff "0:v").1 rfl
  have hnamed : NamesInput 1 "0:v" :=
    ⟨['0'], (Pad.specifierDigits?_eq_some_iff "0:v" ['0']).1 rfl, by decide⟩
  -- the only label that no stage outputs is that of the first input
  have hsource : ∀ pad ∈ (relayGraph label).consumedPads,
      pad ∉ (relayGraph label).producedPads → pad = "0:v" := by
    intro pad hpad hother
    have hnotLabel : pad ≠ label := by simpa [hproduced] using hother
    simpa [hconsumed, hnotLabel] using hpad
  refine accepted_iff.2 ⟨?_, ?_⟩
  · intro pad hpad hother
    rw [hsource pad hpad hother]
    exact .of_short (by decide)
  · exact {
      stageLabels := by simp [hstages, hfirst, hlabel]
      mappedLabels := by simp [hmapped, hlabel]
      namedOperations := by simp [hstages]
      mappedOutputs := by simp [houtputs, Stream.pads, Stream.writing]
      producedOnce := by simp [hproduced]
      consumedOnce := by simp [hproduced, hconsumed, hne.symm]
      knownSources := by
        intro pad hpad hother
        rw [hsource pad hpad hother]
        exact hnamed }

/-- A graph with one input passes on a label that names the sixth one, and is accepted. -/
theorem accepted_relayGraph_five :
    (relayGraph "5").Accepted ∧ "5" ∈ (relayGraph "5").consumedPads ∧
      Pad.isSpecifier "5" = true ∧ Pad.Specifies ['5'] "5" ∧
      ¬ Text.numberOfDigits ['5'] < (relayGraph "5").inputs.length := by
  have hlabel : IsLabel "5" := (padReport_valid_iff "5").1 rfl
  have hspecifies : Pad.Specifies ['5'] "5" := (Pad.specifierDigits?_eq_some_iff "5" ['5']).1 rfl
  exact ⟨accepted_relayGraph hlabel (by decide), by decide, rfl, hspecifies, by decide⟩

/-! ### Labels that no stage outputs -/

/-- **Acceptance fixes the form of a label that no stage outputs.** In an accepted graph such a
label is an index below the number of inputs, alone or with a selector, unless it is an index with a
line feed after it. No label of this kind holds a line feed before its last character. -/
theorem Accepted.isReference_iff (h : g.Accepted) :
    ∀ pad ∈ g.consumedPads, pad ∉ g.producedPads →
      (Pad.IsReference g.inputs.length pad ↔ ¬ Pad.IsIndexLine pad) ∧
        '\n' ∉ pad.toList.dropLast := by
  intro pad hpad hproduced
  have hnamed := (accepted_iff.1 h).2.knownSources pad hpad hproduced
  refine ⟨⟨?_, hnamed.isReference⟩, hnamed.lineFeed_notMem_dropLast⟩
  intro hreference hline
  exact hline.not_isReference _ hreference

/-- The graph that lays one input over another names a stream of its first input. -/
theorem isReference_overlayGraph :
    overlayGraph.Accepted ∧ Pad.IsReference overlayGraph.inputs.length "0:v" := by
  have haccepted : overlayGraph.Accepted := ⟨{}, rfl, rfl⟩
  have htaken : "0:v" ∈ overlayGraph.consumedPads := by decide
  have hproduced : "0:v" ∉ overlayGraph.producedPads := by decide
  have hline : ¬ Pad.IsIndexLine "0:v" := by
    rintro ⟨digits, -, hpad⟩
    have hlast := congrArg List.getLast? hpad
    simp at hlast
  exact ⟨haccepted, (haccepted.isReference_iff "0:v" htaken hproduced).1.2 hline⟩

/-- A graph that takes in a label that is an index with a line feed after it. -/
def lineFeedGraph : Graph :=
  [.stream (.reading "in.mp4"),
    .stage {
      inputPads := ["0\n"]
      outputPads := ["v"]
      operations := [{ name := "hflip" }] },
    .stream (.writing "out.mp4" "" (some ["v"]))]

/-- An index with a line feed after it is accepted, although it is no reference to an input. -/
theorem accepted_lineFeedGraph :
    lineFeedGraph.Accepted ∧ "0\n" ∈ lineFeedGraph.consumedPads ∧
      "0\n" ∉ lineFeedGraph.producedPads ∧
      ¬ Pad.IsReference lineFeedGraph.inputs.length "0\n" := by
  have haccepted : lineFeedGraph.Accepted := ⟨{}, rfl, rfl⟩
  have hline : Pad.IsIndexLine "0\n" := ⟨['0'], List.forall_mem_singleton.2 rfl, rfl⟩
  exact ⟨haccepted, by decide, by decide, hline.not_isReference _⟩

end Graph

end FilterGraph
