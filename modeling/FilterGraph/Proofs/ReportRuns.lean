import FilterGraph.Report.Session
import Mathlib.Data.List.Infix

/-!
# Runs of report sessions

The verdict of a report is kept apart from its errors, but in a session whose reports all start
without messages the two never disagree: a report is valid exactly as long as it has no errors.
Messages are only ever added behind those that are there, and only to the report that a step
concerns.

A step puts at most one report, under the name that it concerns (`Board.find?_step`). What a step
preserves is read off from the report that it puts, and a run preserves what its steps do
(`reports_of_run`).
-/

set_option autoImplicit false

namespace FilterGraph.Report

/-! ### Reports -/

/-- The verdict of a report agrees with its errors. -/
def Agrees (r : Report) : Prop := r.valid = true ↔ r.errors = []

/-- The messages of a report are the first ones of another report, in their order. -/
structure StartOf (r later : Report) : Prop where
  errors : r.errors <+: later.errors
  warnings : r.warnings <+: later.warnings

variable {r s t : Report}

/-- The verdict of a report without messages agrees with its errors. -/
theorem agrees_empty : Agrees {} := by simp [Agrees]

/-- After an error has been added, the verdict agrees with the errors, whatever it was before. -/
theorem agrees_addError (r : Report) (message : String) : (r.addError message).Agrees := by
  simp [Agrees, addError]

/-- Adding a warning changes neither the verdict nor the errors. -/
theorem Agrees.addWarning (h : r.Agrees) (message : String) : (r.addWarning message).Agrees := h

/-- A merged report has no errors when neither of the two has, and is valid when both are. -/
theorem Agrees.merge (hr : r.Agrees) (hs : s.Agrees) : (r.merge s).Agrees := by
  unfold Agrees at *
  rw [Report.merge, Bool.and_eq_true, List.append_eq_nil_iff, hr, hs]

/-- A report starts with its own messages. -/
theorem StartOf.refl (r : Report) : r.StartOf r := ⟨List.prefix_rfl, List.prefix_rfl⟩

/-- What starts the start of a report starts the report. -/
theorem StartOf.trans (hrs : r.StartOf s) (hst : s.StartOf t) : r.StartOf t :=
  ⟨hrs.errors.trans hst.errors, hrs.warnings.trans hst.warnings⟩

/-- An added error comes after the messages that are there. -/
theorem startOf_addError (r : Report) (message : String) : r.StartOf (r.addError message) :=
  ⟨List.prefix_append _ _, List.prefix_rfl⟩

/-- An added warning comes after the messages that are there. -/
theorem startOf_addWarning (r : Report) (message : String) : r.StartOf (r.addWarning message) :=
  ⟨List.prefix_rfl, List.prefix_append _ _⟩

/-- Merged messages come after the messages that are there. -/
theorem startOf_merge (r s : Report) : r.StartOf (r.merge s) :=
  ⟨List.prefix_append _ _, List.prefix_append _ _⟩

/-! ### Steps -/

/-- The name that a step concerns. -/
def Step.concerns : Step → String
  | .create name _ | .addError name _ | .addWarning name _ | .merge name _ | .refuse name => name

/-- Whether the step makes no report but one without messages. -/
def Step.isPlain : Step → Bool
  | .create _ report => report = {}
  | _ => true

namespace Board

variable {board : Board}

/-- The report that a step puts under the name that it concerns, if it puts one. -/
def made? (board : Board) : Step → Option Report
  | .create _ report => some report
  | .addError name message => (board.find? name).map (·.addError message)
  | .addWarning name message => (board.find? name).map (·.addWarning message)
  | .merge name other => (board.find? name).bind fun r => (board.find? other).map r.merge
  | .refuse _ => none

/-- A step puts the report that it makes, or else leaves all reports as they are. -/
theorem step_fst (board : Board) (step : Step) :
    (board.step step).1 = (board.made? step).elim board (board.put step.concerns) := by
  cases step with
  | create name report => rfl
  | addError name message =>
    simp only [Board.step, made?, named]
    cases board.find? name <;> rfl
  | addWarning name message =>
    simp only [Board.step, made?, named]
    cases board.find? name <;> rfl
  | merge name other =>
    simp only [Board.step, made?, named]
    cases board.find? name with
    | none => rfl
    | some r => cases board.find? other <;> rfl
  | refuse name => rfl

/-- After a step, the name that it concerns has the report that it makes, if it makes one, and all
other names have the reports that they had. -/
theorem find?_step (board : Board) (step : Step) (name : String) :
    (board.step step).1.find? name =
      if name = step.concerns then (board.made? step).or (board.find? name)
      else board.find? name := by
  rw [step_fst]
  cases board.made? step with
  | none => exact (ite_self _).symm
  | some report =>
    split
    · rename_i hname
      rw [hname]
      exact Entries.find?_put_self _ _ _
    · rename_i hname
      exact Entries.find?_put_ne hname _ _

/-- All reports of a board have verdicts that agree with their errors. -/
def AllAgree (board : Board) : Prop :=
  ∀ name report, board.find? name = some report → report.Agrees

/-- If all verdicts agree with their errors, so does that of the report which a step makes. -/
theorem AllAgree.made (h : board.AllAgree) {step : Step} (hplain : step.isPlain = true)
    {report : Report} (hmade : board.made? step = some report) : report.Agrees := by
  cases step with
  | create name new =>
    obtain rfl : new = report := Option.some.inj hmade
    obtain rfl : new = {} := of_decide_eq_true hplain
    exact agrees_empty
  | addError name message =>
    obtain ⟨r, -, rfl⟩ := Option.map_eq_some_iff.1 hmade
    exact agrees_addError r message
  | addWarning name message =>
    obtain ⟨r, hr, rfl⟩ := Option.map_eq_some_iff.1 hmade
    exact (h name r hr).addWarning message
  | merge name other =>
    obtain ⟨r, hr, hmade⟩ := Option.bind_eq_some_iff.1 hmade
    obtain ⟨s, hs, rfl⟩ := Option.map_eq_some_iff.1 hmade
    exact (h name r hr).merge (h other s hs)
  | refuse name => exact nomatch hmade

/-- If all verdicts agree with their errors before a step, they do so after it. -/
theorem AllAgree.step (h : board.AllAgree) {step : Step} (hplain : step.isPlain = true) :
    (board.step step).1.AllAgree := by
  intro name report hreport
  rw [find?_step] at hreport
  split at hreport
  · rcases Option.or_eq_some_iff.1 hreport with hmade | ⟨-, hold⟩
    · exact h.made hplain hmade
    · exact h name report hold
  · exact h name report hreport

/-- The report that a step puts starts with the messages of the one that it takes the place of,
unless the step makes a new report. -/
theorem startOf_made {step : Step} (hnew : ∀ report, step ≠ .create step.concerns report)
    {old new : Report} (hold : board.find? step.concerns = some old)
    (hmade : board.made? step = some new) : old.StartOf new := by
  cases step with
  | create name report => exact absurd rfl (hnew report)
  | addError name message =>
    obtain ⟨r, hr, rfl⟩ := Option.map_eq_some_iff.1 hmade
    obtain rfl := Option.some.inj (hold.symm.trans hr)
    exact startOf_addError old message
  | addWarning name message =>
    obtain ⟨r, hr, rfl⟩ := Option.map_eq_some_iff.1 hmade
    obtain rfl := Option.some.inj (hold.symm.trans hr)
    exact startOf_addWarning old message
  | merge name other =>
    obtain ⟨r, hr, hmade⟩ := Option.bind_eq_some_iff.1 hmade
    obtain ⟨s, -, rfl⟩ := Option.map_eq_some_iff.1 hmade
    obtain rfl := Option.some.inj (hold.symm.trans hr)
    exact startOf_merge old s
  | refuse name => exact nomatch hmade

/-- A step that makes no new report under a name adds messages to the report there, or none. -/
theorem startOf_step {step : Step} {name : String} (hnew : ∀ report, step ≠ .create name report)
    {old : Report} (hold : board.find? name = some old) :
    ∃ later, (board.step step).1.find? name = some later ∧ old.StartOf later := by
  rw [find?_step]
  split
  · rename_i hname
    subst hname
    cases hmade : board.made? step with
    | none => exact ⟨old, hold, .refl old⟩
    | some new => exact ⟨new, rfl, startOf_made hnew hold hmade⟩
  · exact ⟨old, hold, .refl old⟩

/-! ### Runs -/

/-- The reports that steps lead to. -/
def after (board : Board) (steps : List Step) : Board :=
  steps.foldl (fun board step => (board.step step).1) board

variable {steps : List Step}

/-- If all verdicts agree with their errors before a run, they do so after it. -/
theorem AllAgree.after (h : board.AllAgree) (hplain : ∀ step ∈ steps, step.isPlain = true) :
    (board.after steps).AllAgree := by
  induction steps generalizing board with
  | nil => exact h
  | cons step rest ih =>
    obtain ⟨hstep, hrest⟩ := List.forall_mem_cons.1 hplain
    exact ih (h.step hstep) hrest

/-- Steps that do not concern a name leave its report as it is. -/
theorem find?_after_of_ne {name : String} (hne : ∀ step ∈ steps, step.concerns ≠ name) :
    (board.after steps).find? name = board.find? name := by
  induction steps generalizing board with
  | nil => rfl
  | cons step rest ih =>
    obtain ⟨hstep, hrest⟩ := List.forall_mem_cons.1 hne
    have hfind := board.find?_step step name
    rw [if_neg hstep.symm] at hfind
    exact (ih hrest).trans hfind

/-- As long as no new report is made under a name, the report there only gets more messages. -/
theorem startOf_after {name : String} (hnew : ∀ report, .create name report ∉ steps)
    {old : Report} (hold : board.find? name = some old) :
    ∃ later, (board.after steps).find? name = some later ∧ old.StartOf later := by
  induction steps generalizing board old with
  | nil => exact ⟨old, hold, .refl old⟩
  | cons step rest ih =>
    have hstep : ∀ report, step ≠ .create name report :=
      fun report heq => hnew report (heq ▸ List.mem_cons_self)
    obtain ⟨next, hnext, hstart⟩ := startOf_step hstep hold
    obtain ⟨later, hlater, hrest⟩ :=
      ih (fun report hmem => hnew report (List.mem_cons_of_mem _ hmem)) hnext
    exact ⟨later, hlater, hstart.trans hrest⟩

/-- Merging puts the merged report under the first name and answers it, also if the two names are
the same. -/
theorem step_merge {name other : String} (hr : board.find? name = some r)
    (hs : board.find? other = some s) :
    board.step (.merge name other) = (board.put name (r.merge s), .ok (r.merge s)) := by
  unfold Board.step named
  dsimp only
  rw [hr, hs]
  rfl

/-- After a merge, the merged report is found under the first name. -/
theorem find?_merge_self {name other : String} (hr : board.find? name = some r)
    (hs : board.find? other = some s) :
    (board.step (.merge name other)).1.find? name = some (r.merge s) := by
  rw [step_merge hr hs]
  exact Entries.find?_put_self _ _ _

/-- A merge leaves the reports under all other names as they are, the one that has been merged in
among them. -/
theorem find?_merge_of_ne (board : Board) {name other third : String} (hne : third ≠ name) :
    (board.step (.merge name other)).1.find? third = board.find? third := by
  rw [find?_step]
  exact if_neg hne

/-- Two merges into one report. -/
theorem find?_merge_merge {a b c : String} (hac : a ≠ c) (hr : board.find? a = some r)
    (hs : board.find? b = some s) (ht : board.find? c = some t) :
    (board.after [.merge a b, .merge a c]).find? a = some ((r.merge s).merge t) :=
  find?_merge_self (find?_merge_self hr hs) ((board.find?_merge_of_ne hac.symm).trans ht)

/-- A merge into a report that is then merged itself. -/
theorem find?_merge_nested {a b c : String} (hab : a ≠ b) (hr : board.find? a = some r)
    (hs : board.find? b = some s) (ht : board.find? c = some t) :
    (board.after [.merge b c, .merge a b]).find? a = some (r.merge (s.merge t)) :=
  find?_merge_self ((board.find?_merge_of_ne hab).trans hr) (find?_merge_self hs ht)

end Board

/-- **Reports agree with their errors, and only grow.** Take any session whose reports are all made
without messages, and its reports after any of its steps.

* Every report is valid exactly if it has no errors.
* Further steps leave every name that they do not concern as it is, and keep the messages of every
  report in front, as long as the name is not given to a new report.
* Merging a report with another one, or with itself, adds the messages of the other one as they are
  before the step behind its own.
* Merging is associative, and a report without messages changes nothing on either side. Of two
  merges into one report and a merge of the merged other two, the same report comes out; the report
  merged into has to be a third one, as it is changed in between. -/
theorem reports_of_run {steps : List Step} (hplain : ∀ step ∈ steps, step.isPlain = true) :
    let board := Board.after [] steps
    (∀ name report, board.find? name = some report → (report.valid = true ↔ report.errors = [])) ∧
    (∀ (more : List Step) (name : String),
      ((∀ step ∈ more, step.concerns ≠ name) →
        (board.after more).find? name = board.find? name) ∧
      ∀ old, board.find? name = some old → (∀ report, .create name report ∉ more) →
        ∃ later, (board.after more).find? name = some later ∧
          old.errors <+: later.errors ∧ old.warnings <+: later.warnings) ∧
    (∀ name other r s, board.find? name = some r → board.find? other = some s →
      ∃ merged, board.step (.merge name other) = (board.put name merged, .ok merged) ∧
        merged.errors = r.errors ++ s.errors ∧ merged.warnings = r.warnings ++ s.warnings) ∧
    (∀ r s t : Report, (r.merge s).merge t = r.merge (s.merge t) ∧ r.merge {} = r ∧
      merge {} r = r) ∧
    ∀ a b c r s t, board.find? a = some r → board.find? b = some s → board.find? c = some t →
      a ≠ b → a ≠ c →
      ∃ result, (board.after [.merge a b, .merge a c]).find? a = some result ∧
        (board.after [.merge b c, .merge a b]).find? a = some result := by
  intro board
  have hagree : board.AllAgree := by
    refine Board.AllAgree.after ?_ hplain
    intro name report hreport
    exact nomatch hreport
  refine ⟨hagree, ?_, ?_, ?_, ?_⟩
  · intro more name
    refine ⟨Board.find?_after_of_ne, ?_⟩
    intro old hold hnew
    obtain ⟨later, hlater, hstart⟩ := Board.startOf_after hnew hold
    exact ⟨later, hlater, hstart.errors, hstart.warnings⟩
  · intro name other r s hr hs
    exact ⟨r.merge s, Board.step_merge hr hs, rfl, rfl⟩
  · exact fun r s t => ⟨merge_assoc r s t, merge_empty r, empty_merge r⟩
  · intro a b c r s t hr hs ht hab hac
    -- merging the second report into the third one first comes to the same by associativity
    have hnested := Board.find?_merge_nested hab hr hs ht
    rw [← merge_assoc] at hnested
    exact ⟨(r.merge s).merge t, Board.find?_merge_merge hac hr hs ht, hnested⟩

/-- A session in which one report is merged with itself and then with another one. -/
def doublingSteps : List Step :=
  [.create "graph" {}, .addError "graph" "Pad 'a' is consumed 2 times", .create "stage" {},
    .addWarning "stage" "Filter stage 's' has no operations", .merge "graph" "graph",
    .merge "graph" "stage", .refuse "graph"]

/-- The report of the graph has its error twice, is invalid, and starts all that it becomes. -/
theorem reports_of_doublingSteps :
    (Board.after [] doublingSteps).find? "graph" = some {
      valid := false
      errors := ["Pad 'a' is consumed 2 times", "Pad 'a' is consumed 2 times"]
      warnings := ["Filter stage 's' has no operations"] } ∧
    ∃ later, ((Board.after [] doublingSteps).after [.merge "graph" "graph"]).find? "graph" =
        some later ∧
      ["Pad 'a' is consumed 2 times", "Pad 'a' is consumed 2 times"] <+: later.errors ∧
      ["Filter stage 's' has no operations"] <+: later.warnings := by
  have hplain : ∀ step ∈ doublingSteps, step.isPlain = true := by decide
  refine ⟨rfl, ?_⟩
  obtain ⟨-, hgrows, -⟩ := reports_of_run hplain
  refine (hgrows [.merge "graph" "graph"] "graph").2 _ rfl ?_
  intro report hmem
  exact nomatch List.mem_singleton.1 hmem

end FilterGraph.Report
