import FilterGraph.Kind
import FilterGraph.Report
import FilterGraph.Text.Quoted

/-!
# Failures

Every way in which an operation of the library can fail is a cause of its own. `Failure.message`
gives the sentence that is shown for it.
-/

set_option autoImplicit false

namespace FilterGraph

/-- The settings that can be given a value. -/
inductive SettingName where
  | logLevel
  | safeLogging
  deriving DecidableEq

/-- What is wrong with the value of a setting. -/
inductive SettingFault where
  | notText
  | notTruthText
  | notTruthKind
  deriving DecidableEq

/-- What is wrong with filling a template. -/
inductive TemplateFault where
  | tooFewArguments
  | tooManyArguments
  | notNumber (kind : Kind)
  | undefinedNumber
  | infiniteNumber
  | notMapping
  | missingKey (key : String)
  | unfinishedKey
  | unfinished
  | unknownConversion (conversion : Char) (index : Nat)
  deriving DecidableEq

/-- Why an operation failed. -/
inductive Failure where
  | unsupportedPayload (kind : Kind)
  | notOptions (kind : Kind)
  | notStream (kind : Kind)
  | notStage (kind : Kind)
  | notDirection (shown : String)
  | longIndex (digits : Nat)
  | refused (report : Report)
  | badSettings (faults : List (SettingName × SettingFault))
  | badTemplate (fault : TemplateFault)
  | unreadableNumber (text : String)
  | notIterable (kind : Kind)
  | notAssignable (kind : Kind)
  | notCharacters (kind : Kind)
  | notPath (index : Nat) (kind : Kind)
  | notJoinable (left right : Kind)
  | uncountable (kind : Kind)
  | listKey
  | beyondList
  | unknownName (name : String)
  | missingField (kind : Kind) (field : String)
  deriving DecidableEq, Inhabited

/-- The name that a setting is given a value under. -/
def SettingName.text : SettingName → String
  | .logLevel => "log_level"
  | .safeLogging => "safe_logging"

/-- The word for what is wrong with a setting. -/
def SettingFault.text : SettingFault → String
  | .notText => "string_type"
  | .notTruthText => "bool_parsing"
  | .notTruthKind => "bool_type"

/-- The sentence for a template that could not be filled. -/
def TemplateFault.message : TemplateFault → String
  | .tooFewArguments => "not enough arguments for format string"
  | .tooManyArguments => "not all arguments converted during string formatting"
  | .notNumber kind => "%d format: a real number is required, not " ++ kind.label
  | .undefinedNumber => "cannot convert float NaN to integer"
  | .infiniteNumber => "cannot convert float infinity to integer"
  | .notMapping => "format requires a mapping"
  | .missingKey key => Text.quoted key
  | .unfinishedKey => "incomplete format key"
  | .unfinished => "incomplete format"
  | .unknownConversion c index =>
    let visible := if 0x1f ≤ c.toNat ∧ c.toNat < 0x7f then c else '?'
    "unsupported format character '" ++ String.singleton visible ++ "' (0x"
      ++ String.ofList (Nat.toDigits 16 c.toNat) ++ ") at index " ++ index.repr

/-- The greatest number of digits that the index of an input may be written with. -/
def longestIndex : Nat := 4300

/-- The sentence for a failure. -/
def Failure.message : Failure → String
  | .unsupportedPayload kind => "Unsupported option payload: " ++ kind.label
  | .notOptions kind =>
    "Filter options must be a dict, str or option payload, got " ++ kind.label
  | .notStream kind => "Expected a Stream node, got " ++ kind.label
  | .notStage kind => "Expected a FilterStage node, got " ++ kind.label
  | .notDirection shown => shown ++ " is not a valid StreamDirection"
  | .longIndex digits =>
    "Exceeds the limit (" ++ longestIndex.repr
      ++ " digits) for integer string conversion: value has " ++ digits.repr
      ++ " digits; use sys.set_int_max_str_digits() to increase the limit"
  | .refused report => report.refusal
  | .badSettings faults =>
    String.intercalate "; " (faults.map fun f => f.1.text ++ ": " ++ f.2.text)
  | .badTemplate fault => fault.message
  | .unreadableNumber text => "could not convert string to float: " ++ Text.quoted text
  | .notIterable kind => "'" ++ kind.label ++ "' object is not iterable"
  | .notAssignable kind => "'" ++ kind.label ++ "' object does not support item assignment"
  | .notCharacters kind => "expected string or bytes-like object, got '" ++ kind.label ++ "'"
  | .notPath index kind =>
    "sequence item " ++ index.repr ++ ": expected str instance, " ++ kind.label ++ " found"
  | .notJoinable left right =>
    if left = .list ∨ left = .text then
      "can only concatenate " ++ left.label ++ " (not \"" ++ right.label ++ "\") to " ++ left.label
    else
      "unsupported operand type(s) for +: '" ++ left.label ++ "' and '" ++ right.label ++ "'"
  | .uncountable kind => "unhashable type: '" ++ kind.label ++ "'"
  | .listKey => "list indices must be integers or slices, not str"
  | .beyondList => "list index out of range"
  | .unknownName name => Text.quoted name
  | .missingField kind field =>
    "'" ++ kind.label ++ "' object has no attribute '" ++ field ++ "'"

end FilterGraph
