import FilterGraph.Text.Capital

/-!
# Log levels

The five levels from the least to the most severe, and how a level is named: in capitals of any
text, so that small letters and ligatures name it too.
-/

set_option autoImplicit false

namespace FilterGraph.Log

/-- How severe a log entry is. -/
inductive Level where
  | debug
  | info
  | warning
  | error
  | critical
  deriving DecidableEq

namespace Level

/-- The name of a level. -/
def name : Level → String
  | .debug => "DEBUG"
  | .info => "INFO"
  | .warning => "WARNING"
  | .error => "ERROR"
  | .critical => "CRITICAL"

/-- The levels from the least to the most severe. -/
def all : List Level := [.debug, .info, .warning, .error, .critical]

/-- The place of a level among all levels. -/
def severity : Level → Nat
  | .debug => 0
  | .info => 1
  | .warning => 2
  | .error => 3
  | .critical => 4

/-- The level that a text names once it is put in capitals. -/
def named? (text : String) : Option Level :=
  all.find? fun level => level.name = Text.capitals text

/-- A text names a level if in capitals it is the name of the level. -/
theorem named?_eq_some_iff (text : String) (level : Level) :
    named? text = some level ↔ Text.capitals text = level.name := by
  constructor
  · intro h
    have := List.find?_some h
    simpa using (of_decide_eq_true this).symm
  · intro h
    unfold named?
    rw [h]
    cases level <;> decide

end Level

end FilterGraph.Log
