import FilterGraph.Proofs.DistinctMessages
import FilterGraph.Proofs.Found

/-!
# Messages about the wiring of a label

How a label is wired is a matter of two numbers: how often stages output it and how often stages and
outputs take it in. A report has the message that the two numbers call for once, and no other
message about the wiring of the label (`Graph.tellsWiring_of_validate`).

The findings about the wiring of one label are picked out of everything that is found, in three
steps: only the findings about uses are about wiring at all, each label is gone through once, and
what is found about one label is never about another. What is left is a short list without
repetitions, `Pad.Uses.foundOn`. Since messages tell findings apart, it is also the list of the
messages about the label, each as often.
-/

set_option autoImplicit false

namespace FilterGraph

/-- A member of a list occurs in it once under a condition, and otherwise not at all. -/
def OnceIff {α : Type} [DecidableEq α] (l : List α) (a : α) (condition : Prop) : Prop :=
  (condition → l.count a = 1) ∧ (¬ condition → a ∉ l)

/-- How often something occurs in a list without repetitions is a matter of whether it does. -/
theorem OnceIff.of_nodup {α : Type} [DecidableEq α] {l : List α} {a : α} {condition : Prop}
    (hnodup : l.Nodup) (hmem : a ∈ l ↔ condition) : OnceIff l a condition :=
  ⟨fun h => List.count_eq_one_of_mem hnodup (hmem.2 h), fun h => mt hmem.1 h⟩

/-- What occurs as often as something that occurs once under a condition does so too. -/
theorem OnceIff.of_count_eq {α β : Type} [DecidableEq α] [DecidableEq β] {l : List α}
    {others : List β} {a : α} {b : β} {condition : Prop} (h : OnceIff l a condition)
    (hcount : others.count b = l.count a) : OnceIff others b condition := by
  refine ⟨fun hc => hcount.trans (h.1 hc), fun hc => ?_⟩
  rw [← List.count_eq_zero, hcount, List.count_eq_zero]
  exact h.2 hc

/-! ### Messages and findings -/

/-- A defect is among the errors of a report as often as it was found. -/
theorem Report.count_errors_ofFindings (findings : List Finding) (d : Defect) :
    (ofFindings findings).errors.count d.message = findings.count (.defect d) := by
  rw [errors_ofFindings, List.count_filterMap]
  refine List.countP_congr fun f _ => ?_
  cases f with
  | defect e =>
    simp only [Finding.error?, beq_iff_eq, Option.some.injEq, Finding.defect.injEq]
    exact ⟨Defect.message_injective, congrArg Defect.message⟩
  | remark m => simp [Finding.error?]

/-- A label that is never taken in is among the warnings of a report as often as it was found. -/
theorem Report.count_warnings_ofFindings (findings : List Finding) (pad : String) :
    (ofFindings findings).warnings.count (Remark.unconsumed pad).message =
      findings.count (.remark (.unconsumed pad)) := by
  rw [warnings_ofFindings, List.count_filterMap]
  refine List.countP_congr fun f _ => ?_
  cases f with
  | defect d => simp [Finding.warning?]
  | remark m =>
    simp only [Finding.warning?, beq_iff_eq, Option.some.injEq, Finding.remark.injEq]
    exact ⟨Remark.eq_unconsumed_of_message_eq, congrArg Remark.message⟩

/-! ### Findings about the wiring of a label -/

/-- The label whose wiring a finding is about. -/
def Finding.label? : Finding → Option String
  | .defect (.producedOften pad _) | .defect (.consumedOften pad _)
  | .defect (.beyondInputs pad _ _) | .defect (.dangling pad)
  | .remark (.unconsumed pad) => some pad
  | _ => none

/-- The findings about the wiring of a label, of some findings. -/
def findingsOn (label : String) (findings : List Finding) : List Finding :=
  findings.filter fun f => f.label? = some label

/-- Findings about another label, or about none, are not about the label. -/
theorem findingsOn_eq_nil {findings : List Finding} {other : Option String}
    (h : ∀ f ∈ findings, f.label? = other) {label : String} (hother : other ≠ some label) :
    findingsOn label findings = [] := by
  refine List.filter_eq_nil_iff.2 fun f hf => ?_
  simpa [h f hf] using hother

/-- Findings that are all about the label are kept, all of them. -/
theorem findingsOn_eq_self {findings : List Finding} {label : String}
    (h : ∀ f ∈ findings, f.label? = some label) : findingsOn label findings = findings := by
  refine List.filter_eq_self.2 fun f hf => ?_
  simpa using h f hf

/-- The findings about a label, of two rows of findings, are those of the first row and then those
of the second. -/
theorem findingsOn_append (label : String) (findings others : List Finding) :
    findingsOn label (findings ++ others) =
      findingsOn label findings ++ findingsOn label others :=
  List.filter_append ..

/-- When the findings about each of several labels are about the wiring of that label, those about
one label are the ones that were made about it. -/
theorem findingsOn_flatMap {labels : List String} (hnodup : labels.Nodup)
    {find : String → List Finding} (hfind : ∀ other, ∀ f ∈ find other, f.label? = some other)
    (label : String) :
    findingsOn label (labels.flatMap find) = if label ∈ labels then find label else [] := by
  induction labels with
  | nil => rfl
  | cons first rest ih =>
    obtain ⟨hfirst, hrest⟩ := List.nodup_cons.1 hnodup
    rw [List.flatMap_cons, findingsOn_append, ih hrest]
    by_cases heq : first = label
    · subst heq
      rw [findingsOn_eq_self (hfind first), if_neg hfirst, if_pos List.mem_cons_self,
        List.append_nil]
    · have hne : some first ≠ some label := fun hsome => heq (Option.some.inj hsome)
      rw [findingsOn_eq_nil (hfind first) hne, List.nil_append]
      simp only [List.mem_cons, Ne.symm heq, false_or]

/-! ### What is found about the wiring of a label -/

/-- The one finding of a row is about the label that it is about. -/
theorem label?_of_mem_singleton {f found : Finding} (h : f ∈ [found]) :
    f.label? = found.label? := by
  rw [List.mem_singleton.1 h]

/-- A finding that is made under a condition is about the same label whenever it is made. -/
theorem label?_of_mem_ite {p : Prop} [Decidable p] {f found : Finding}
    (h : f ∈ if p then [found] else []) : f.label? = found.label? :=
  label?_of_mem_singleton (List.mem_ite_nil_right.1 h).2

/-- Missing inputs and outputs are not about the wiring of a label. -/
theorem label?_of_mem_presenceFindings {inputs outputs : Nat} {f : Finding}
    (h : f ∈ presenceFindings inputs outputs) : f.label? = none := by
  rcases List.mem_append.1 h with hinputs | houtputs
  · exact label?_of_mem_ite hinputs
  · exact label?_of_mem_ite houtputs

/-- What is wrong with a label by itself is not about its wiring. -/
theorem label?_of_mem_padFindings {pad : String} {f : Finding} (h : f ∈ padFindings pad) :
    f.label? = none := by
  unfold padFindings at h
  split at h
  · exact label?_of_mem_singleton h
  · exact label?_of_mem_singleton (List.mem_ite_nil_left.1 h).2

/-- What is found in an operation is not about the wiring of a label. -/
theorem Operation.label?_of_mem_findings {o : Operation} {stage : String} {f : Finding}
    (h : f ∈ o.findings stage) : f.label? = none := by
  unfold Operation.findings at h
  rcases List.mem_append.1 h with hname | hoptions
  · exact label?_of_mem_ite hname
  · split at hoptions
    · exact label?_of_mem_singleton hoptions
    · cases hoptions

/-- What is found in a stage is not about the wiring of a label. -/
theorem Stage.label?_of_mem_findings {s : Stage} {f : Finding} (h : f ∈ s.findings) :
    f.label? = none := by
  simp only [Stage.findings, List.mem_append, List.mem_flatMap, List.mem_ite_nil_right,
    List.mem_singleton] at h
  rcases h with (⟨pad, -, hpad⟩ | ⟨-, rfl⟩) | ⟨o, -, ho⟩
  · exact label?_of_mem_padFindings hpad
  · rfl
  · exact Operation.label?_of_mem_findings ho

/-- What is found in the streams is not about the wiring of a label. -/
theorem Graph.label?_of_mem_streamFindings {g : Graph} {f : Finding}
    (h : f ∈ g.streamFindings) : f.label? = none := by
  simp only [Graph.streamFindings, List.mem_append, List.mem_map, List.mem_flatMap,
    List.mem_ite_nil_left] at h
  rcases h with (⟨s, -, rfl⟩ | ⟨pad, -, hpad⟩) | ⟨-, s, -, rfl⟩
  · rfl
  · exact label?_of_mem_padFindings hpad
  · rfl

namespace Pad.Uses

variable (u : Uses String) {label : String} {f : Finding}

/-- What is found about a label that is put out is about its wiring. -/
theorem label?_of_mem_productionFindings (h : f ∈ u.productionFindings id label) :
    f.label? = some label := by
  rcases List.mem_append.1 h with hproduced | hconsumed
  · exact label?_of_mem_ite hproduced
  · exact label?_of_mem_singleton (List.mem_ite_nil_left.1 hconsumed).2

/-- What is found about a label that is taken in is about its wiring. -/
theorem label?_of_mem_consumptionFound (h : f ∈ u.consumptionFound label) :
    f.label? = some label := by
  unfold consumptionFound sourceFindings at h
  split at h
  · exact label?_of_mem_ite h
  · split at h
    · exact label?_of_mem_singleton h
    · exact label?_of_mem_ite h

/-- What is found about the wiring of a label. -/
def foundOn (label : String) : List Finding :=
  (if label ∈ u.produced then u.productionFindings id label else []) ++
    if label ∈ u.consumed then u.consumptionFound label else []

/-- The findings about the wiring of a label, of all that is found about labels, are those made
about it. -/
theorem findingsOn_found (label : String) : findingsOn label u.found = u.foundOn label := by
  have hproduction := findingsOn_flatMap (nodup_eraseDups u.produced)
    (fun _ _ => u.label?_of_mem_productionFindings) label
  have hconsumption := findingsOn_flatMap (nodup_eraseDups u.consumed)
    (fun _ _ => u.label?_of_mem_consumptionFound) label
  rw [found, findingsOn_append, hproduction, hconsumption]
  simp only [List.mem_eraseDups, foundOn]

/-- What is found about the wiring of a label, by how often the label is output and taken in. -/
theorem mem_foundOn_iff (label : String) (f : Finding) :
    f ∈ u.foundOn label ↔
      (1 < u.produced.count label ∧
        f = .defect (.producedOften label (u.produced.count label))) ∨
      (0 < u.produced.count label ∧ u.consumed.count label = 0 ∧
        f = .remark (.unconsumed label)) ∨
      (0 < u.produced.count label ∧ 1 < u.consumed.count label ∧
        f = .defect (.consumedOften label (u.consumed.count label))) ∨
      (u.produced.count label = 0 ∧ 0 < u.consumed.count label ∧
        f ∈ u.sourceFindings id label (namedInput? label)) := by
  unfold foundOn productionFindings consumptionFound
  by_cases hproduced : label ∈ u.produced
  · have hcount : 0 < u.produced.count label := List.count_pos_iff.2 hproduced
    by_cases hconsumed : label ∈ u.consumed
    · have hconsumedCount : 0 < u.consumed.count label := List.count_pos_iff.2 hconsumed
      simp [hproduced, hconsumed, hcount.ne', hconsumedCount.ne']
    · simp [hproduced, hconsumed, List.count_eq_zero_of_not_mem hconsumed, hcount.ne']
  · by_cases hconsumed : label ∈ u.consumed
    · have hconsumedCount : 0 < u.consumed.count label := List.count_pos_iff.2 hconsumed
      simp [hproduced, hconsumed, List.count_eq_zero_of_not_mem hproduced, hconsumedCount]
    · simp [hproduced, hconsumed, List.count_eq_zero_of_not_mem hproduced,
        List.count_eq_zero_of_not_mem hconsumed]

/-- A label that no stage puts out is found to be dangling if it names no input, and to be beyond
the inputs if the index that it names is. -/
theorem mem_sourceFindings_iff (label : String) (f : Finding) :
    f ∈ u.sourceFindings id label (namedInput? label) ↔
      ((∀ digits, ¬ Specifies digits label) ∧ f = .defect (.dangling label)) ∨
      ∃ digits, Specifies digits label ∧ u.inputs ≤ Text.numberOfDigits digits ∧
        f = .defect (.beyondInputs label (Text.numberOfDigits digits) u.inputs) := by
  rw [← specifierDigits?_eq_none_iff]
  simp only [← specifierDigits?_eq_some_iff, namedInput?]
  cases specifierDigits? label with
  | none => simp [sourceFindings]
  | some digits => simp [sourceFindings]

/-- One thing at most is found about where a label comes from. -/
theorem nodup_sourceFindings (label : String) (index : Option Nat) :
    (u.sourceFindings id label index).Nodup := by
  unfold sourceFindings
  split
  · exact List.nodup_singleton _
  · split
    · exact List.nodup_singleton _
    · exact List.nodup_nil

/-- Nothing is found twice about the wiring of a label. -/
theorem nodup_foundOn (label : String) : (u.foundOn label).Nodup := by
  unfold foundOn productionFindings consumptionFound
  by_cases hproduced : label ∈ u.produced
  · simp only [if_pos hproduced]
    split_ifs <;> simp
  · simp only [if_neg hproduced, List.nil_append]
    split
    · exact u.nodup_sourceFindings label _
    · exact List.nodup_nil

end Pad.Uses

/-- Among everything that is found in a graph, only what is found about the uses of a label is about
its wiring. -/
theorem Graph.findingsOn_found (g : Graph) (label : String) :
    findingsOn label g.found = g.uses.foundOn label := by
  have hstages : ∀ f ∈ g.stages.flatMap Stage.findings, f.label? = none := by
    intro f hf
    obtain ⟨s, -, hs⟩ := List.mem_flatMap.1 hf
    exact Stage.label?_of_mem_findings hs
  have hnone : none ≠ some label := nofun
  rw [found, findingsOn_append, findingsOn_append, findingsOn_append,
    findingsOn_eq_nil (fun _ => label?_of_mem_presenceFindings) hnone,
    findingsOn_eq_nil hstages hnone,
    findingsOn_eq_nil (fun _ => label?_of_mem_streamFindings) hnone, g.uses.findingsOn_found]
  rfl

/-! ### Messages about the wiring of a label -/

/-- What a report says about the wiring of a label: the messages about it, each with the condition
under which it is there. -/
structure Report.TellsWiring (r : Report) (g : Graph) (label : String) : Prop where
  producedOften : ∀ count : Nat,
    OnceIff r.errors ("Pad '" ++ label ++ "' is produced by " ++ count.repr ++ " stage outputs")
      (1 < g.producedPads.count label ∧ count = g.producedPads.count label)
  consumedOften : ∀ count : Nat,
    OnceIff r.errors ("Pad '" ++ label ++ "' is consumed " ++ count.repr ++ " times")
      (0 < g.producedPads.count label ∧ 1 < g.consumedPads.count label ∧
        count = g.consumedPads.count label)
  dangling :
    OnceIff r.errors ("Pad '" ++ label ++ "' is referenced but never produced")
      (g.producedPads.count label = 0 ∧ 0 < g.consumedPads.count label ∧
        ∀ digits, ¬ Pad.Specifies digits label)
  beyondInputs : ∀ index inputs : Nat,
    OnceIff r.errors
      ("Pad '" ++ label ++ "' refers to input " ++ index.repr ++ " but the graph has "
        ++ inputs.repr ++ " input stream(s)")
      (g.producedPads.count label = 0 ∧ 0 < g.consumedPads.count label ∧
        (∃ digits, Pad.Specifies digits label ∧ index = Text.numberOfDigits digits) ∧
        g.inputs.length ≤ index ∧ inputs = g.inputs.length)
  unconsumed :
    OnceIff r.warnings ("Pad '" ++ label ++ "' is produced but never consumed")
      (0 < g.producedPads.count label ∧ g.consumedPads.count label = 0)

namespace Graph

variable {g : Graph} {report : Report} {label : String} {condition : Prop}

/-- A finding about the wiring of a label is made once under its condition, and otherwise not at
all. -/
theorem onceIff_found {f : Finding} (hlabel : f.label? = some label)
    (hmem : f ∈ g.uses.foundOn label ↔ condition) : OnceIff g.found f condition := by
  refine (OnceIff.of_nodup (g.uses.nodup_foundOn label) hmem).of_count_eq ?_
  rw [← g.findingsOn_found label]
  exact (List.count_filter (by simpa using hlabel)).symm

/-- The message of a defect of the wiring of a label is reported once under its condition, and
otherwise not at all. -/
theorem onceIff_errors (h : g.validate = .ok report) {d : Defect}
    (hlabel : (Finding.defect d).label? = some label)
    (hmem : .defect d ∈ g.uses.foundOn label ↔ condition) :
    OnceIff report.errors d.message condition := by
  obtain ⟨-, rfl⟩ := (g.validate_eq_ok_iff report).1 h
  exact (onceIff_found hlabel hmem).of_count_eq (Report.count_errors_ofFindings g.found d)

/-- **The messages about the wiring of a label are exact.** When a graph is validated, the report
has each message about the wiring of a label once if the uses of the label call for it, with the
right numbers, and otherwise not at all. -/
theorem tellsWiring_of_validate (h : g.validate = .ok report) (label : String) :
    report.TellsWiring g label where
  producedOften count := by
    refine onceIff_errors h (d := .producedOften label count) rfl ?_
    simp [Pad.Uses.mem_foundOn_iff, Pad.Uses.mem_sourceFindings_iff, uses]
  consumedOften count := by
    refine onceIff_errors h (d := .consumedOften label count) rfl ?_
    simp [Pad.Uses.mem_foundOn_iff, Pad.Uses.mem_sourceFindings_iff, uses]
  dangling := by
    refine onceIff_errors h (d := .dangling label) rfl ?_
    simp [Pad.Uses.mem_foundOn_iff, Pad.Uses.mem_sourceFindings_iff, uses]
  beyondInputs index inputs := by
    refine onceIff_errors h (d := .beyondInputs label index inputs) rfl ?_
    rw [Pad.Uses.mem_foundOn_iff, Pad.Uses.mem_sourceFindings_iff]
    constructor
    · rintro (⟨-, h⟩ | ⟨-, -, h⟩ | ⟨-, -, h⟩ |
        ⟨hproduced, hconsumed, ⟨-, h⟩ | ⟨digits, hdigits, hbeyond, h⟩⟩)
      -- only the last finding is of this kind
      all_goals cases h
      exact ⟨hproduced, hconsumed, ⟨digits, hdigits, rfl⟩, hbeyond, rfl⟩
    · rintro ⟨hproduced, hconsumed, ⟨digits, hdigits, rfl⟩, hbeyond, rfl⟩
      exact .inr (.inr (.inr ⟨hproduced, hconsumed, .inr ⟨digits, hdigits, hbeyond, rfl⟩⟩))
  unconsumed := by
    obtain ⟨-, rfl⟩ := (g.validate_eq_ok_iff report).1 h
    refine (onceIff_found (f := .remark (.unconsumed label)) rfl ?_).of_count_eq
      (Report.count_warnings_ofFindings g.found label)
    simp [Pad.Uses.mem_foundOn_iff, Pad.Uses.mem_sourceFindings_iff, uses]

/-- A graph in which one label is output twice and taken in three times, one label is output for
nothing, and labels are taken in that no stage outputs. One of them reads like a message. -/
def miswiredGraph : Graph :=
  [.stream (.reading "in.mp4"),
    .stage {
      name := "split"
      inputPads := ["0:v", "٤:a", "left"]
      outputPads := ["left", "left", "right"]
      operations := [{ name := "split" }] },
    .stream (.writing "out.mp4" "" (some ["left", "lost' is consumed 2 times"])),
    .stream (.writing "copy.mp4" "" (some ["left"]))]

/-- Each mistake is reported once, and a label that reads like a message is not taken for one. -/
theorem tellsWiring_miswiredGraph :
    ∃ report, miswiredGraph.validate = .ok report ∧
      (∀ label, report.TellsWiring miswiredGraph label) ∧
      report.errors.count "Pad 'left' is produced by 2 stage outputs" = 1 ∧
      report.errors.count "Pad 'left' is consumed 3 times" = 1 ∧
      report.errors.count "Pad '٤:a' refers to input 4 but the graph has 1 input stream(s)" = 1 ∧
      report.errors.count "Pad 'lost' is consumed 2 times' is referenced but never produced" = 1 ∧
      "Pad 'lost' is consumed 2 times" ∉ report.errors ∧
      report.warnings.count "Pad 'right' is produced but never consumed" = 1 := by
  obtain ⟨report, hreport⟩ : ∃ report, miswiredGraph.validate = .ok report := ⟨_, rfl⟩
  have htells := tellsWiring_of_validate hreport
  refine ⟨report, hreport, htells, ?_, ?_, ?_, ?_, ?_, ?_⟩
  · exact ((htells "left").producedOften 2).1 (by decide)
  · exact ((htells "left").consumedOften 3).1 (by decide)
  · have hspecifies : Pad.Specifies ['٤'] "٤:a" :=
      (Pad.specifierDigits?_eq_some_iff _ _).1 (by decide)
    exact ((htells "٤:a").beyondInputs 4 1).1
      ⟨by decide, by decide, ⟨_, hspecifies, by decide⟩, by decide, by decide⟩
  · have hspecifies := (Pad.specifierDigits?_eq_none_iff "lost' is consumed 2 times").1 (by decide)
    exact (htells "lost' is consumed 2 times").dangling.1 ⟨by decide, by decide, hspecifies⟩
  · exact ((htells "lost").consumedOften 2).2 (by decide)
  · exact (htells "right").unconsumed.1 (by decide)

end Graph

end FilterGraph
