import FilterGraph.Entries
import FilterGraph.Failure

/-!
# Report sessions

A session works on reports with names. Each step concerns one report and answers it as it is after
the step; a refusal answers the failure that carries the report and changes nothing. A report may
be merged with itself.
-/

set_option autoImplicit false

namespace FilterGraph.Report

/-- The reports of a session by their names. -/
abbrev Board := Entries Report

/-- What a step is asked for. -/
inductive Step where
  | create (name : String) (report : Report)
  | addError (name message : String)
  | addWarning (name message : String)
  | merge (name other : String)
  | refuse (name : String)

namespace Board

/-- The report with a name. -/
def named (board : Board) (name : String) : Except Failure Report :=
  match board.find? name with
  | some report => .ok report
  | none => .error (.unknownName name)

/-- Put a report under a name and answer it. -/
def answering (board : Board) (name : String) :
    Except Failure Report → Board × Except Failure Report
  | .ok report => (board.put name report, .ok report)
  | .error failure => (board, .error failure)

/-- One step of a session. -/
def step (board : Board) : Step → Board × Except Failure Report
  | .create name report => board.answering name (.ok report)
  | .addError name message =>
    board.answering name ((board.named name).map (·.addError message))
  | .addWarning name message =>
    board.answering name ((board.named name).map (·.addWarning message))
  | .merge name other =>
    board.answering name do
      let report ← board.named name
      return report.merge (← board.named other)
  | .refuse name => (board, (board.named name).bind fun report => .error (.refused report))

end Board

/-- The answers of a session from some reports on, one for each step. -/
def answers : Board → List Step → List (Except Failure Report)
  | _, [] => []
  | board, step :: rest =>
    let (next, answer) := board.step step
    answer :: answers next rest

end FilterGraph.Report
