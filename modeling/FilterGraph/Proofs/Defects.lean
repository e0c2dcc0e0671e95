import FilterGraph.Wiring
import Mathlib.Data.List.Basic

/-!
# When findings hold no defect

A report is valid as long as none of its findings is a defect. For each part of a validation this
file says when that is so: for a label exactly when it can be written, for a stage by itself when
its labels can be written and its operations have names, for the streams when the mapped labels can
be written and no output lacks a mapping that it needs. The wiring of labels is in
`FilterGraph.Proofs.Soundness`.
-/

set_option autoImplicit false

namespace FilterGraph

/-- None of the findings is a defect. -/
def NoDefect (findings : List Finding) : Prop := ∀ f ∈ findings, f.error? = none

namespace NoDefect

variable {α : Type} {findings : List Finding}

/-- There is no defect where nothing is found. -/
@[simp] theorem nil : NoDefect [] := by simp [NoDefect]

/-- A defect by itself is a defect. -/
@[simp] theorem not_defect (d : Defect) : ¬ NoDefect [.defect d] := by
  simp [NoDefect, Finding.error?]

/-- A remark is no defect. -/
@[simp] theorem remark (m : Remark) : NoDefect [.remark m] := by
  simp [NoDefect, Finding.error?]

/-- Remarks only are no defects, however many there are. -/
@[simp] theorem map_remark (members : List α) (m : α → Remark) :
    NoDefect (members.map fun a => .remark (m a)) := by
  simp [NoDefect, Finding.error?]

/-- Defects only are no findings without a defect unless there are none. -/
@[simp] theorem map_defect_iff (members : List α) (d : α → Defect) :
    NoDefect (members.map fun a => .defect (d a)) ↔ members = [] := by
  cases members with
  | nil => simp
  | cons a members => simp [NoDefect, Finding.error?]

/-- Two rows of findings together hold no defect if neither of them does. -/
@[simp] theorem append_iff {others : List Finding} :
    NoDefect (findings ++ others) ↔ NoDefect findings ∧ NoDefect others := by
  simp [NoDefect, or_imp, forall_and]

/-- The findings about the members of a list are without a defect exactly when those about each of
them are. -/
@[simp] theorem flatMap_iff {members : List α} {find : α → List Finding} :
    NoDefect (members.flatMap find) ↔ ∀ a ∈ members, NoDefect (find a) := by
  simp only [NoDefect, List.mem_flatMap, forall_exists_index, and_imp]
  constructor
  · intro h a ha f hf
    exact h f a ha hf
  · intro h f a ha hf
    exact h a ha f hf

/-- A defect that is found under a condition is absent exactly when the condition fails. -/
@[simp] theorem ite_defect_iff {p : Prop} [Decidable p] (d : Defect) :
    NoDefect (if p then [.defect d] else []) ↔ ¬ p := by
  by_cases h : p <;> simp [h]

/-- A remark that is made under a condition is no defect either way. -/
@[simp] theorem ite_remark {p : Prop} [Decidable p] (m : Remark) :
    NoDefect (if p then [.remark m] else []) := by
  by_cases h : p <;> simp [h]

end NoDefect

/-- A report has errors exactly when a defect was found. -/
theorem Report.errors_ofFindings_eq_nil_iff (findings : List Finding) :
    (Report.ofFindings findings).errors = [] ↔ NoDefect findings := by
  rw [Report.errors_ofFindings, List.filterMap_eq_nil_iff]
  rfl

/-- A report made from findings is valid exactly when it has no errors. -/
theorem Report.valid_ofFindings_iff (findings : List Finding) :
    (Report.ofFindings findings).valid = true ↔ (Report.ofFindings findings).errors = [] := by
  rw [Report.valid_ofFindings, Report.errors_ofFindings, List.isEmpty_iff]

/-- No reserved character stands in a label exactly when none of its characters is the comma, the
semicolon or a bracket. -/
theorem reservedIn_eq_nil_iff (pad : String) :
    reservedIn pad = [] ↔ ∀ c ∈ pad.toList, c ≠ ',' ∧ c ≠ ';' ∧ c ≠ '[' ∧ c ≠ ']' := by
  have hreserved : (∀ c ∈ pad.toList, c ∉ reservedChars) ↔
      ∀ c ∈ pad.toList, c ≠ ',' ∧ c ≠ ';' ∧ c ≠ '[' ∧ c ≠ ']' := by
    simp only [mem_reservedChars_iff, not_or, ne_eq]
  unfold reservedIn
  rw [List.filter_eq_nil_iff, ← hreserved]
  constructor
  · intro h c hc hmem
    exact h c hmem (by simpa using hc)
  · intro h c hmem hc
    exact h c (by simpa using hc) hmem

/-- Nothing is wrong with a label exactly when it can be written. -/
theorem noDefect_padFindings_iff (pad : String) : NoDefect (padFindings pad) ↔ IsLabel pad := by
  unfold padFindings
  constructor
  · intro h
    split at h
    · exact absurd h (NoDefect.not_defect _)
    · rename_i hne
      split at h
      · rename_i hreserved
        exact ⟨hne, (reservedIn_eq_nil_iff pad).1 hreserved⟩
      · exact absurd h (NoDefect.not_defect _)
  · rintro ⟨hne, hchars⟩
    rw [if_neg hne, if_pos ((reservedIn_eq_nil_iff pad).2 hchars)]
    exact NoDefect.nil

/-- A label is accepted by its own report exactly when it can be written. -/
theorem padReport_valid_iff (pad : String) : (padReport pad).valid = true ↔ IsLabel pad := by
  unfold padReport
  rw [Report.valid_ofFindings_iff, Report.errors_ofFindings_eq_nil_iff, noDefect_padFindings_iff]

/-- Nothing is wrong with an operation exactly when it has a name; its options only give remarks. -/
theorem Operation.noDefect_findings_iff (stage : String) (o : Operation) :
    NoDefect (o.findings stage) ↔ o.name ≠ "" := by
  unfold Operation.findings
  rw [NoDefect.append_iff, NoDefect.ite_defect_iff]
  constructor
  · exact And.left
  · intro hname
    refine ⟨hname, ?_⟩
    split
    · exact NoDefect.remark _
    · exact NoDefect.nil

/-- Nothing is wrong with a stage by itself exactly when its labels can be written and its
operations have names. -/
theorem Stage.noDefect_findings_iff (s : Stage) :
    NoDefect s.findings ↔
      (∀ pad ∈ s.inputPads ++ s.outputPads, IsLabel pad) ∧ ∀ o ∈ s.operations, o.name ≠ "" := by
  unfold Stage.findings
  simp only [NoDefect.append_iff, NoDefect.flatMap_iff, NoDefect.ite_remark, and_true,
    noDefect_padFindings_iff, Operation.noDefect_findings_iff]

/-- Which streams there are at all is never a defect. -/
theorem noDefect_presenceFindings (inputs outputs : Nat) :
    NoDefect (presenceFindings inputs outputs) := by
  simp [presenceFindings]

/-- Nothing is wrong with the streams exactly when the mapped labels can be written and, as soon as
there are stages, every output takes something in. -/
theorem Graph.noDefect_streamFindings_iff (g : Graph) :
    NoDefect g.streamFindings ↔
      (∀ pad ∈ g.mappedPads, IsLabel pad) ∧ (g.stages ≠ [] → ∀ s ∈ g.outputs, s.pads ≠ []) := by
  have hunmapped : NoDefect (if g.stages.isEmpty then []
        else (g.outputs.filter (·.pads.isEmpty)).map fun s => .defect (.unmappedOutput s.path)) ↔
      (g.stages ≠ [] → ∀ s ∈ g.outputs, s.pads ≠ []) := by
    by_cases hstages : g.stages = []
    · simp [hstages]
    · simp [hstages, List.filter_eq_nil_iff]
  unfold Graph.streamFindings
  rw [NoDefect.append_iff, NoDefect.append_iff, NoDefect.flatMap_iff, hunmapped]
  simp only [NoDefect.map_remark, true_and, noDefect_padFindings_iff]

end FilterGraph
