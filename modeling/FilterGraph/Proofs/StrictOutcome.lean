import FilterGraph.Command
import FilterGraph.Proofs.Found

/-!
# How validation and strict compilation end

A graph whose options are payloads always compiles leniently. If the indices that have to be read
can be, then validating it gives a report, and a strict compilation gives what the lenient one gives
or refuses the report; otherwise all three fail at an index that has too many digits. There is no
other outcome (`Graph.strict_outcome`).

The second case occurs as soon as an output takes in a label of more than `longestIndex` digits
(`Graph.longIndex_digitsGraph`).
-/

set_option autoImplicit false

namespace FilterGraph

/-! ### Which graphs have a text -/

/-- An operation has a text exactly if its options are a payload. -/
theorem Operation.exists_render_iff (o : Operation) :
    (∃ text, o.render = .ok text) ↔ ∃ payload, o.options = .payload payload := by
  unfold Operation.render
  rw [Outcome.exists_map_eq_ok_iff]
  cases o.options <;> simp [Options.render]

/-- A stage has a text exactly if the options of all its operations are payloads. -/
theorem Stage.exists_render_iff (s : Stage) :
    (∃ text, s.render = .ok text) ↔
      ∀ o ∈ s.operations, ∃ payload, o.options = .payload payload := by
  unfold Stage.render Operation.renderChain
  simp only [Outcome.exists_map_eq_ok_iff, Outcome.exists_mapM_eq_ok_iff,
    Operation.exists_render_iff]

namespace Graph

variable (g : Graph)

/-- No operation of a stage has been given a loose value for its options. -/
def HasPayloads : Prop :=
  ∀ s ∈ g.stages, ∀ o ∈ s.operations, ∃ payload, o.options = .payload payload

/-- The filter graph has a text exactly when all options are payloads. -/
theorem exists_filterText_iff : (∃ filters, g.filterText = .ok filters) ↔ g.HasPayloads := by
  unfold filterText stageTexts HasPayloads
  simp only [Outcome.exists_map_eq_ok_iff, Outcome.exists_mapM_eq_ok_iff, Stage.exists_render_iff]

/-! ### What a strict compilation does first -/

variable {g} {α : Type}

/-- The outcome of a strict compilation follows a report: it is the value of the lenient compilation
if the report is valid, and otherwise the report is refused. -/
def Follows (strict lenient : Except Failure α) (report : Report) : Prop :=
  ∃ a, lenient = .ok a ∧ strict = if report.valid then .ok a else .error (.refused report)

/-- Screening a graph that validates is screening its report. -/
theorem screen_of_validate_eq_ok {report : Report} (h : g.validate = .ok report) :
    g.screen true = report.screen := by
  simp [screen, h, Bind.bind, Except.bind]

/-- After the screening of a graph with a report, compiling goes on only if the report is valid. -/
theorem screen_bind_of_validate_eq_ok {report : Report} (h : g.validate = .ok report)
    (lenient : Except Failure α) :
    (do g.screen true; lenient) = if report.valid then lenient else .error (.refused report) := by
  rw [screen_of_validate_eq_ok h]
  unfold Report.screen
  split <;> rfl

/-- Whatever is compiled after the screening of a graph with a report follows the report. -/
theorem follows_of_validate_eq_ok {report : Report} (h : g.validate = .ok report)
    {lenient : Except Failure α} {a : α} (hlenient : lenient = .ok a) :
    Follows (do g.screen true; lenient) lenient report := by
  refine ⟨a, hlenient, ?_⟩
  rw [screen_bind_of_validate_eq_ok h, hlenient]

/-- Nothing is compiled after the screening of a graph that cannot be validated. -/
theorem screen_bind_of_validate_eq_error {failure : Failure} (h : g.validate = .error failure)
    (lenient : Except Failure α) : (do g.screen true; lenient) = .error failure := by
  simp [screen, h, Bind.bind, Except.bind]

/-- **Validation and strict compilation end in one of two ways.** Let all options of a graph be
payloads. If every index that has to be read can be, then validation gives a report and the strict
compilations follow it. If not, then validation and the strict compilations fail alike, at an index
with too many digits. -/
theorem strict_outcome (hpayloads : g.HasPayloads) :
    (g.HasReadableIndices → ∃ report, g.validate = .ok report ∧
      Follows (g.command true) g.command report ∧
      Follows (g.arguments true) g.arguments report) ∧
    (¬ g.HasReadableIndices → ∃ digits, longestIndex < digits ∧
      g.validate = .error (.longIndex digits) ∧
      g.command true = .error (.longIndex digits) ∧
      g.arguments true = .error (.longIndex digits)) := by
  obtain ⟨filters, hfilters⟩ := g.exists_filterText_iff.2 hpayloads
  constructor
  · intro hreadable
    have hreport := (g.validate_eq_ok_iff _).2 ⟨hreadable, rfl⟩
    have hcommand : g.filterText.map g.commandAround = .ok (g.commandAround filters) :=
      Outcome.map_eq_ok_iff.2 ⟨filters, hfilters, rfl⟩
    have harguments : g.filterText.map g.argumentsAround = .ok (g.argumentsAround filters) :=
      Outcome.map_eq_ok_iff.2 ⟨filters, hfilters, rfl⟩
    exact ⟨_, hreport, follows_of_validate_eq_ok hreport hcommand,
      follows_of_validate_eq_ok hreport harguments⟩
  · intro hunreadable
    cases hvalidate : g.validate with
    | ok report => exact absurd ((g.validate_eq_ok_iff report).1 hvalidate).1 hunreadable
    | error failure =>
      obtain ⟨_, _, _, digits, _, hlong, rfl⟩ := g.exists_of_validate_eq_error hvalidate
      exact ⟨digits.length, hlong, rfl, screen_bind_of_validate_eq_error hvalidate _,
        screen_bind_of_validate_eq_error hvalidate _⟩

/-- A graph whose output takes in a label that nothing stands for. -/
def lostLabelGraph : Graph :=
  [.stream (.reading "in.mp4"),
    .stage {
      inputPads := ["0:v"]
      outputPads := ["v"]
      operations := [{ name := "scale", options := .payload (.raw "640:-1") }] },
    .stream (.writing "out.mp4" "" (some ["lost"]))]

/-- The graph has a report without failing, and strict compilations of it follow the report. -/
theorem strict_outcome_lostLabelGraph :
    lostLabelGraph.HasPayloads ∧ lostLabelGraph.HasReadableIndices ∧
      ∃ report, lostLabelGraph.validate = .ok report ∧
        Follows (lostLabelGraph.command true) lostLabelGraph.command report ∧
        Follows (lostLabelGraph.arguments true) lostLabelGraph.arguments report := by
  have hstages : lostLabelGraph.stages = [{
      inputPads := ["0:v"]
      outputPads := ["v"]
      operations := [{ name := "scale", options := .payload (.raw "640:-1") }] }] := rfl
  have hpayloads : lostLabelGraph.HasPayloads := by simp [HasPayloads, hstages]
  have hreadable : lostLabelGraph.HasReadableIndices := hasReadableIndices_of_short (by decide)
  exact ⟨hpayloads, hreadable, (strict_outcome hpayloads).1 hreadable⟩

/-! ### Labels with too many digits -/

/-- A graph whose output takes in a label of the given number of ones. -/
def digitsGraph (count : Nat) : Graph :=
  [.stream (.reading "in.mp4"),
    .stream (.writing "out.mp4" "" (some [String.ofList (List.replicate count '1')]))]

/-- A label of too many digits stops validation and strict compilation, although the graph compiles
leniently. -/
theorem longIndex_digitsGraph {count : Nat} (hcount : longestIndex < count) :
    (digitsGraph count).HasPayloads ∧
      (digitsGraph count).validate = .error (.longIndex count) ∧
      (digitsGraph count).command true = .error (.longIndex count) ∧
      (digitsGraph count).arguments true = .error (.longIndex count) := by
  have hconsumed : (digitsGraph count).consumedPads =
      [String.ofList (List.replicate count '1')] := rfl
  have hproduced : (digitsGraph count).producedPads = [] := rfl
  have hstages : (digitsGraph count).stages = [] := rfl
  have hspecifies := Pad.specifies_ones (Nat.zero_lt_of_lt hcount)
  have hvalidate := (digitsGraph count).validate_eq_error_of_longIndex (by simp [hconsumed])
    (by simp [hproduced]) hspecifies (by rwa [List.length_replicate]) (by simp [hconsumed])
  rw [List.length_replicate] at hvalidate
  refine ⟨by simp [HasPayloads, hstages], hvalidate, ?_, ?_⟩
  · exact screen_bind_of_validate_eq_error hvalidate _
  · exact screen_bind_of_validate_eq_error hvalidate _

/-- One digit more than an index may have is too many. -/
theorem longIndex_digitsGraph_4301 :
    (digitsGraph 4301).HasPayloads ∧
      (digitsGraph 4301).validate = .error (.longIndex 4301) ∧
      (digitsGraph 4301).command true = .error (.longIndex 4301) ∧
      (digitsGraph 4301).arguments true = .error (.longIndex 4301) :=
  longIndex_digitsGraph (by decide)

end Graph

end FilterGraph
