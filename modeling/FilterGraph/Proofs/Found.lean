import FilterGraph.Proofs.Outcome
import FilterGraph.Proofs.SpecifierLanguage
import FilterGraph.Validation

/-!
# What is found in a graph

Validation fails only at an index that has too many digits to be read. Apart from that, what is
found in a graph is a list that can be given outright: `Graph.found`. The last statement,
`Graph.validate_eq_ok_iff`, says both at once, and everything about the findings of a graph is
derived from it.
-/

set_option autoImplicit false

namespace FilterGraph

/-- First occurrences are taken once each. -/
theorem nodup_eraseDups (texts : List String) : texts.eraseDups.Nodup := by
  induction hlength : texts.length using Nat.strong_induction_on generalizing texts with
  | _ length ih =>
    cases texts with
    | nil => simp
    | cons s rest =>
      -- the recursion is on the rest without the first text, which is shorter but no tail
      have hshorter : (rest.filter fun t => !t == s).length < length := by
        have hfilter := List.length_filter_le (fun t => !t == s) rest
        rw [List.length_cons] at hlength
        omega
      rw [List.eraseDups_cons, List.nodup_cons]
      exact ⟨by simp, ih _ hshorter _ rfl⟩

namespace Pad.Uses

variable (u : Uses String)

/-- What is found about a label that is taken in. -/
def consumptionFound (label : String) : List Finding :=
  if label ∈ u.produced then
    if 1 < u.consumed.count label then
      [.defect (.consumedOften label (u.consumed.count label))]
    else []
  else u.sourceFindings id label (namedInput? label)

/-- What is found about all labels. -/
def found : List Finding :=
  u.produced.eraseDups.flatMap (u.productionFindings id) ++
    u.consumed.eraseDups.flatMap u.consumptionFound

/-- The findings about a label that is taken in can be made unless it is no stage output and its
index cannot be read. -/
theorem consumptionFindings_eq_ok_iff (label : String) (findings : List Finding) :
    u.consumptionFindings id inputIndex? label = .ok findings ↔
      (label ∉ u.produced → HasReadableIndex label) ∧ u.consumptionFound label = findings := by
  unfold consumptionFindings consumptionFound
  by_cases hproduced : label ∈ u.produced
  · simp [hproduced]
  · simp [hproduced, Outcome.map_eq_ok_iff, inputIndex?_eq_ok_iff]

/-- The findings about all labels can be made unless the index of some label that only names an
input cannot be read. -/
theorem findings_eq_ok_iff (findings : List Finding) :
    u.findings id inputIndex? = .ok findings ↔
      (∀ label ∈ u.consumed, label ∉ u.produced → HasReadableIndex label) ∧
        u.found = findings := by
  unfold Uses.findings found
  rw [Outcome.map_eq_ok_iff]
  simp only [Outcome.mapM_eq_ok_map_iff u.consumptionFindings_eq_ok_iff, List.mem_eraseDups,
    List.flatMap_def (f := u.consumptionFound)]
  constructor
  · rintro ⟨consumption, ⟨hreadable, rfl⟩, rfl⟩
    exact ⟨hreadable, rfl⟩
  · rintro ⟨hreadable, rfl⟩
    exact ⟨_, ⟨hreadable, rfl⟩, rfl⟩

/-- A failure to find something about the labels is a failure to read the index of a label that no
stage outputs. -/
theorem exists_of_findings_eq_error {failure : Failure}
    (h : u.findings id inputIndex? = .error failure) :
    ∃ label ∈ u.consumed, label ∉ u.produced ∧ inputIndex? label = .error failure := by
  obtain ⟨label, hlabel, hfailure⟩ :=
    Outcome.exists_of_mapM_eq_error (Outcome.map_eq_error_iff.1 h)
  refine ⟨label, List.mem_eraseDups.1 hlabel, ?_⟩
  unfold consumptionFindings at hfailure
  split at hfailure
  · cases hfailure
  · rename_i hproduced
    exact ⟨by simpa using hproduced, Outcome.map_eq_error_iff.1 hfailure⟩

end Pad.Uses

namespace Graph

variable (g : Graph)

/-- Every index that has to be read in order to validate a graph can be read. -/
def HasReadableIndices : Prop :=
  ∀ pad ∈ g.consumedPads, pad ∉ g.producedPads → Pad.HasReadableIndex pad

/-- It is enough that no label that is taken in starts with too many digits. -/
theorem hasReadableIndices_of_short {g : Graph}
    (h : ∀ pad ∈ g.consumedPads, (pad.toList.takeWhile Text.isDigit).length ≤ longestIndex) :
    g.HasReadableIndices :=
  fun pad hpad _ => .of_short (h pad hpad)

/-- What is found in a graph. -/
def found : List Finding :=
  presenceFindings g.inputs.length g.outputs.length ++ g.stages.flatMap Stage.findings ++
    g.streamFindings ++ g.uses.found

/-- Validating a graph gives a report exactly when the indices can be read, and the report is then
that of what is found. -/
theorem validate_eq_ok_iff (report : Report) :
    g.validate = .ok report ↔ g.HasReadableIndices ∧ .ofFindings g.found = report := by
  unfold validate findings
  simp only [Outcome.map_eq_ok_iff, g.uses.findings_eq_ok_iff]
  constructor
  · rintro ⟨_, ⟨_, ⟨hreadable, rfl⟩, rfl⟩, rfl⟩
    exact ⟨hreadable, rfl⟩
  · rintro ⟨hreadable, rfl⟩
    exact ⟨_, ⟨_, ⟨hreadable, rfl⟩, rfl⟩, rfl⟩

/-- Validating a graph fails only at the index of a label that is taken in and that no stage
outputs: the index has too many digits, and the failure says how many. -/
theorem exists_of_validate_eq_error {failure : Failure} (h : g.validate = .error failure) :
    ∃ pad ∈ g.consumedPads, pad ∉ g.producedPads ∧ ∃ digits, Pad.Specifies digits pad ∧
      longestIndex < digits.length ∧ failure = .longIndex digits.length := by
  have huses := Outcome.map_eq_error_iff.1 (Outcome.map_eq_error_iff.1 h)
  obtain ⟨pad, hpad, hproduced, hfailure⟩ := g.uses.exists_of_findings_eq_error huses
  exact ⟨pad, hpad, hproduced, Pad.exists_of_inputIndex?_eq_error hfailure⟩

/-- If only one index that has to be read has too many digits, then validating the graph fails at
it. -/
theorem validate_eq_error_of_longIndex {pad : String} {digits : List Char}
    (hpad : pad ∈ g.consumedPads) (hproduced : pad ∉ g.producedPads)
    (hdigits : Pad.Specifies digits pad) (hlong : longestIndex < digits.length)
    (hothers : ∀ other ∈ g.consumedPads, other ≠ pad → Pad.HasReadableIndex other) :
    g.validate = .error (.longIndex digits.length) := by
  cases hvalidate : g.validate with
  | ok report =>
    have hreadable := ((g.validate_eq_ok_iff report).1 hvalidate).1
    have hshort := hreadable pad hpad hproduced digits hdigits
    omega
  | error failure =>
    obtain ⟨other, hother, -, others, hspecifies, hlongOther, rfl⟩ :=
      g.exists_of_validate_eq_error hvalidate
    obtain rfl : other = pad := by
      by_contra hne
      have hshort := hothers other hother hne others hspecifies
      omega
    rw [hspecifies.digits_eq hdigits]

end Graph

end FilterGraph
