import FilterGraph.Entries
import FilterGraph.Failure
import FilterGraph.Scalar

/-!
# Filter options

The options of a filter are a payload: either keyed values, which are written `key=value` with
colons between them, or raw text, which is written as it is. An operation may also have been given
a loose value that is no payload. Such a value can be coerced when it is absent, a dictionary or a
text, and it can never be written.
-/

set_option autoImplicit false

namespace FilterGraph

/-- Options that can be written. -/
inductive Payload where
  | keyed (values : Entries Scalar)
  | raw (text : String)

/-- What an operation has been given as its options. -/
inductive Options where
  | payload (payload : Payload)
  | loose (value : Scalar)

namespace Payload

/-- The text of one keyed option. -/
def entryText (entry : String × Scalar) : String := entry.1 ++ "=" ++ entry.2.plain

/-- The text of a payload. -/
def render : Payload → String
  | .keyed values => String.intercalate ":" (values.map entryText)
  | .raw text => text

/-- The kind of a payload. -/
def kind : Payload → Kind
  | .keyed _ => .keyed
  | .raw _ => .raw

end Payload

namespace Options

/-- Options without any keys. -/
def empty : Options := .payload (.keyed [])

/-- The kind of what has been given. -/
def kind : Options → Kind
  | .payload p => p.kind
  | .loose value => value.kind

/-- Make a payload of what has been given: nothing becomes keyed options without keys, a dictionary
keyed options, and a text raw ones. -/
def coerce : Options → Except Failure Payload
  | .payload p => .ok p
  | .loose .none => .ok (.keyed [])
  | .loose (.dictionary entries) => .ok (.keyed entries)
  | .loose (.text text) => .ok (.raw text)
  | .loose value => .error (.notOptions value.kind)

/-- The text of options; a loose value has none. -/
def render : Options → Except Failure String
  | .payload p => .ok p.render
  | .loose value => .error (.unsupportedPayload value.kind)

end Options

end FilterGraph
