import FilterGraph.Command
import FilterGraph.Log.Logged

/-!
# What compilation and validation log

A validation that finds errors logs their number and the errors. A strict compilation logs each
warning, also when it then refuses the graph. The compilation to text logs how many streams and
stages there are before it writes anything, and the text when it is written.

Main statements: the logged actions have the outcomes of `Graph.validate`, `Graph.command` and
`Graph.arguments`, so logging changes no answer.
-/

set_option autoImplicit false

namespace FilterGraph.Log

variable (g : Graph)

/-- The entry for a report with errors. -/
def errorsEntry (errors : List String) : Entry where
  logger := validationLogger
  level := .debug
  template := "[FFGRAPH-VALIDATE] %s error(s): %s"
  arguments := [.int errors.length, .list (errors.map .text)]

/-- The entry for a warning of a strict compilation. -/
def warningEntry (warning : String) : Entry where
  logger := compilationLogger
  level := .warning
  template := "[FFGRAPH-VALIDATE] %s"
  arguments := [.text warning]

/-- The entry for the numbers of streams and stages that are compiled. -/
def countsEntry : Entry where
  logger := compilationLogger
  level := .debug
  template := "[FFGRAPH-COMPILE] inputs=%s stages=%s outputs=%s"
  arguments := [.int g.inputs.length, .int g.stages.length, .int g.outputs.length]

/-- The entry for a finished command. -/
def commandEntry (text : String) : Entry where
  logger := compilationLogger
  level := .debug
  template := "[FFGRAPH-COMPILE] %s"
  arguments := [.text text]

/-- Validate a graph. -/
def validate : Logged Report := do
  let report ← .ofOutcome g.validate
  .log (if report.errors.isEmpty then [] else [errorsEntry report.errors])
  return report

/-- Validate a graph for a strict compilation and refuse it if it is not valid. -/
def screen (strict : Bool) : Logged Unit :=
  if strict then do
    let report ← validate g
    .log (report.warnings.map warningEntry)
    .ofOutcome report.screen
  else pure ()

/-- Compile a graph to text. -/
def command (strict : Bool) : Logged String := do
  screen g strict
  .log [countsEntry g]
  let text ← .ofOutcome (g.filterText.map g.commandAround)
  .log [commandEntry text]
  return text

/-- Compile a graph to arguments. -/
def arguments (strict : Bool) : Logged (List String) := do
  screen g strict
  .ofOutcome (g.filterText.map g.argumentsAround)

/-- Compile a graph to arguments and annotate them; nothing is logged. -/
def annotate : Logged AnnotatedCommand := .ofOutcome g.annotate

/-- Logging does not change what a graph is validated to. -/
theorem outcome_validate : (validate g).outcome = g.validate := by
  simp only [validate, Logged.outcome_bind, Logged.outcome_ofOutcome, Logged.outcome_log,
    Logged.outcome_pure]
  cases g.validate <;> rfl

/-- Logging does not change which graphs are let through. -/
theorem outcome_screen (strict : Bool) : (screen g strict).outcome = g.screen strict := by
  cases strict with
  | false => rfl
  | true =>
    simp only [screen, Graph.screen, if_true, Logged.outcome_bind, outcome_validate,
      Logged.outcome_ofOutcome, Logged.outcome_log]
    cases g.validate <;> rfl

/-- Logging does not change the command of a graph. -/
theorem outcome_command (strict : Bool) : (command g strict).outcome = g.command strict := by
  simp only [command, Graph.command, Logged.outcome_bind, outcome_screen, Logged.outcome_log,
    Logged.outcome_ofOutcome, Logged.outcome_pure]
  cases g.screen strict with
  | error failure => rfl
  | ok _ => cases g.filterText <;> rfl

/-- Logging does not change the arguments of a graph. -/
theorem outcome_arguments (strict : Bool) : (arguments g strict).outcome = g.arguments strict := by
  simp only [arguments, Graph.arguments, Logged.outcome_bind, outcome_screen,
    Logged.outcome_ofOutcome]
  cases g.screen strict <;> rfl

end FilterGraph.Log
