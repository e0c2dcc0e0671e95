import FilterGraph.Log.Level
import FilterGraph.Log.Template
import FilterGraph.Text.LineBreak

/-!
# Log entries and records

An entry is what code asks to be logged: a template and its arguments, a level, and the logger. A
record is what is emitted for it, with the finished message. When escaping is on, the line breaks
of every argument that is a text are written out before the template is filled; the values of a
mapping are arguments too, but texts further inside an argument are left to their quotation.
-/

set_option autoImplicit false

namespace FilterGraph.Log

/-- The value that is logged for an argument when escaping is on. -/
def escaped : Scalar → Scalar
  | .text s => .text (Text.escapeLineBreaks s)
  | value => value

namespace Arguments

/-- The arguments of a call: a single dictionary that is not empty is itself the mapping. -/
def ofCall : Option (List Scalar) → Arguments
  | none => .absent
  | some [.dictionary (entry :: entries)] => .mapping (entry :: entries)
  | some values => .positional values

/-- The arguments with line breaks written out. -/
def escape : Arguments → Arguments
  | .absent => .absent
  | .positional values => .positional (values.map escaped)
  | .mapping entries => .mapping (entries.map fun e => (e.1, escaped e.2))

end Arguments

/-- What code asks to be logged. -/
structure Entry where
  logger : String
  level : Level
  template : String
  arguments : List Scalar

/-- What is emitted for an entry. -/
structure Record where
  logger : String
  level : Level
  message : String
  deriving DecidableEq

/-- The arguments of a record, with line breaks written out if escaping is on. -/
def recordArguments (escaping : Bool) (arguments : Option (List Scalar)) : Arguments :=
  let arguments := Arguments.ofCall arguments
  if escaping then arguments.escape else arguments

/-- The record of an entry. -/
def Entry.record (escaping : Bool) (e : Entry) : Except TemplateFault Record :=
  (fill e.template (recordArguments escaping (some e.arguments))).map fun message =>
    { logger := e.logger, level := e.level, message }

/-- The name that all loggers of the library lie under. -/
def rootLogger : String := "ffgraph"

/-- The logger of the compilation. -/
def compilationLogger : String := "ffgraph.compiler"

/-- The logger of the validation. -/
def validationLogger : String := "ffgraph.validation"

/-- The logger of the settings. -/
def settingsLogger : String := "ffgraph.config"

/-- The logger of the logging set-up. -/
def setupLogger : String := "ffgraph.log_utils"

/-- Whether a logger belongs to the library. -/
def isOwnLogger (logger : String) : Bool :=
  logger = rootLogger || (rootLogger ++ ".").toList.isPrefixOf logger.toList

end FilterGraph.Log
