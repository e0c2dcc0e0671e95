import FilterGraph.Rendering
import FilterGraph.Report

/-!
# Findings of a validation

A finding is a defect, which makes a graph invalid, or a remark, which does not. Each kind of
finding says what it is about, and its message is made from that. Here are also the findings about
a single pad label and about a single stage; those about the wiring of a graph are in
`FilterGraph.Validation`.
-/

set_option autoImplicit false

namespace FilterGraph

/-- What makes a graph invalid. -/
inductive Defect where
  /-- A pad has no label. -/
  | emptyPad
  /-- A pad label holds characters that have a meaning in the text of a filter graph. -/
  | reservedInPad (pad : String)
  /-- An operation of a stage has no name. -/
  | namelessOperation (stage : String)
  /-- An output takes in nothing although there are stages. -/
  | unmappedOutput (path : String)
  /-- Several stage outputs have the same label. -/
  | producedOften (pad : String) (count : Nat)
  /-- The output of a stage is taken in several times. -/
  | consumedOften (pad : String) (count : Nat)
  /-- A label names an input that the graph does not have. -/
  | beyondInputs (pad : String) (index inputs : Nat)
  /-- A label is taken in that no stage outputs and that names no input. -/
  | dangling (pad : String)
  deriving DecidableEq

/-- What is odd about a graph but does not make it invalid. -/
inductive Remark where
  | noInputs
  | noOutputs
  | idleStage (stage : String)
  | emptyRawOptions (operation stage : String)
  | mappedInput (path : String)
  | unconsumed (pad : String)
  deriving DecidableEq

/-- What a validation finds. -/
inductive Finding where
  | defect (defect : Defect)
  | remark (remark : Remark)
  deriving DecidableEq

/-- The characters that a pad label must not hold, ascending. -/
def reservedChars : List Char := [',', ';', '[', ']']

/-- A character is reserved exactly if it is the comma, the semicolon or one of the brackets. -/
theorem mem_reservedChars_iff {c : Char} :
    c ∈ reservedChars ↔ c = ',' ∨ c = ';' ∨ c = '[' ∨ c = ']' := by
  simp [reservedChars]

/-- The reserved characters that occur in a label, ascending. -/
def reservedIn (pad : String) : List Char := reservedChars.filter (pad.toList.contains ·)

/-- The sentence for a defect. -/
def Defect.message : Defect → String
  | .emptyPad => "Pad label must not be empty"
  | .reservedInPad pad =>
    "Pad label '" ++ pad ++ "' contains reserved characters: "
      ++ String.intercalate " " ((reservedIn pad).map String.singleton)
  | .namelessOperation stage => "Filter stage '" ++ stage ++ "' has an invocation without a name"
  | .unmappedOutput path =>
    "Output stream '" ++ path ++ "' has no mapped pads while filter stages exist"
  | .producedOften pad count =>
    "Pad '" ++ pad ++ "' is produced by " ++ count.repr ++ " stage outputs"
  | .consumedOften pad count => "Pad '" ++ pad ++ "' is consumed " ++ count.repr ++ " times"
  | .beyondInputs pad index inputs =>
    "Pad '" ++ pad ++ "' refers to input " ++ index.repr ++ " but the graph has " ++ inputs.repr
      ++ " input stream(s)"
  | .dangling pad => "Pad '" ++ pad ++ "' is referenced but never produced"

/-- The sentence for a remark. -/
def Remark.message : Remark → String
  | .noInputs => "Graph has no input streams"
  | .noOutputs => "Graph has no output streams"
  | .idleStage stage => "Filter stage '" ++ stage ++ "' has no operations"
  | .emptyRawOptions operation stage =>
    "Filter '" ++ operation ++ "' in stage '" ++ stage ++ "' has empty raw options"
  | .mappedInput path => "Input stream '" ++ path ++ "' has mapped pads; they are ignored"
  | .unconsumed pad => "Pad '" ++ pad ++ "' is produced but never consumed"

/-- The report with one more finding: a defect becomes an error and a remark a warning. -/
def Report.note (r : Report) : Finding → Report
  | .defect d => r.addError d.message
  | .remark m => r.addWarning m.message

/-- The report of some findings in order. -/
def Report.ofFindings (findings : List Finding) : Report := findings.foldl Report.note {}

/-- The error that a finding is reported as, if it is a defect. -/
def Finding.error? : Finding → Option String
  | .defect d => some d.message
  | .remark _ => none

/-- The warning that a finding is reported as, if it is a remark. -/
def Finding.warning? : Finding → Option String
  | .defect _ => none
  | .remark m => some m.message

/-- Noting findings one by one adds their errors and their warnings, each in order, and a report
stays valid as long as none of them is a defect. -/
theorem Report.foldl_note (r : Report) (findings : List Finding) :
    findings.foldl Report.note r =
      { valid := r.valid && (findings.filterMap Finding.error?).isEmpty
        errors := r.errors ++ findings.filterMap Finding.error?
        warnings := r.warnings ++ findings.filterMap Finding.warning? } := by
  induction findings generalizing r with
  | nil => simp
  | cons f rest ih =>
    rw [List.foldl_cons, ih]
    cases f with
    | defect d => simp [note, addError, List.filterMap_cons, Finding.error?, Finding.warning?]
    | remark m => simp [note, addWarning, List.filterMap_cons, Finding.error?, Finding.warning?]

/-- The errors of a report are the messages of the defects, in the order in which they were
found. -/
@[simp] theorem Report.errors_ofFindings (findings : List Finding) :
    (ofFindings findings).errors = findings.filterMap Finding.error? := by
  simp [ofFindings, foldl_note]

/-- The warnings of a report are the messages of the remarks, in the order in which they were
found. -/
@[simp] theorem Report.warnings_ofFindings (findings : List Finding) :
    (ofFindings findings).warnings = findings.filterMap Finding.warning? := by
  simp [ofFindings, foldl_note]

/-- A report is valid if there is no defect among the findings. -/
@[simp] theorem Report.valid_ofFindings (findings : List Finding) :
    (ofFindings findings).valid = (findings.filterMap Finding.error?).isEmpty := by
  simp [ofFindings, foldl_note]

/-- The findings about a pad label. -/
def padFindings (pad : String) : List Finding :=
  if pad = "" then [.defect .emptyPad]
  else if reservedIn pad = [] then []
  else [.defect (.reservedInPad pad)]

/-- The findings about one operation of the stage with the given label. -/
def Operation.findings (stage : String) (o : Operation) : List Finding :=
  (if o.name = "" then [.defect (.namelessOperation stage)] else []) ++
    match o.options with
    | .payload (.raw "") => [.remark (.emptyRawOptions o.name stage)]
    | _ => []

/-- The label that messages call a stage by. -/
def Stage.label (s : Stage) : String := if s.name = "" then "<unnamed>" else s.name

/-- The findings about a stage by itself. -/
def Stage.findings (s : Stage) : List Finding :=
  (s.inputPads ++ s.outputPads).flatMap padFindings ++
    (if s.operations.isEmpty then [.remark (.idleStage s.label)] else []) ++
    s.operations.flatMap (Operation.findings s.label)

/-- The report on a pad label. -/
def padReport (pad : String) : Report := .ofFindings (padFindings pad)

/-- The report on a stage by itself. -/
def Stage.report (s : Stage) : Report := .ofFindings s.findings

end FilterGraph
