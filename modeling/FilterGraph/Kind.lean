/-!
# Kinds of values

The kinds of the values that may turn up where another kind is wanted. Messages about such a value
name its kind by its label.
-/

set_option autoImplicit false

namespace FilterGraph

/-- What kind of thing a value is. -/
inductive Kind where
  | none
  | bool
  | int
  | float
  | text
  | list
  | dictionary
  | keyed
  | raw
  | stream
  | stage
  | operation
  | direction
  | report
  deriving DecidableEq, Inhabited

/-- The label that messages name a kind by. -/
def Kind.label : Kind → String
  | .none => "NoneType"
  | .bool => "bool"
  | .int => "int"
  | .float => "float"
  | .text => "str"
  | .list => "list"
  | .dictionary => "dict"
  | .keyed => "KeyedOptions"
  | .raw => "RawOptions"
  | .stream => "Stream"
  | .stage => "FilterStage"
  | .operation => "FilterInvocation"
  | .direction => "StreamDirection"
  | .report => "ValidationResult"

end FilterGraph
