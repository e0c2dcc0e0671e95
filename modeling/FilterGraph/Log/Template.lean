import FilterGraph.Entries
import FilterGraph.Failure
import FilterGraph.Scalar

/-!
# Message templates

A template is a text with conversions that are filled with arguments: `%s` takes the plain text of
the next argument and `%d` its whole number; a key in parentheses after the percent sign takes the
value of that key instead, from arguments that are a mapping; two percent signs stand for one.
Every argument has to be used, unless the arguments are a mapping.

A template is first taken apart into pieces and then filled from left to right, so that the first
fault from the left is the one that is reported.
-/

set_option autoImplicit false

namespace FilterGraph.Log

/-- The arguments that a template is filled with. -/
inductive Arguments where
  | absent
  | positional (values : List Scalar)
  | mapping (entries : Entries Scalar)

/-- A part of a template. -/
inductive Piece where
  /-- A character that stands for itself. -/
  | char (c : Char)
  /-- Take the value of a key as the next argument. -/
  | select (key : String)
  /-- A key that does not end. -/
  | unclosedKey
  /-- The plain text of the next argument. -/
  | plain
  /-- The whole number of the next argument. -/
  | number
  /-- A percent sign that nothing follows. -/
  | unfinished
  /-- A conversion that does not exist, with its place in the template. -/
  | unknown (c : Char) (index : Nat)
  deriving DecidableEq

/-- The piece for the character of a conversion, at the given place. -/
def conversion (c : Char) (index : Nat) : Piece :=
  if c = 's' then .plain
  else if c = 'd' then .number
  else .unknown c index

/-- Where in a template the reading is. -/
inductive Place where
  /-- Between conversions. -/
  | outside
  /-- After a percent sign. -/
  | percent
  /-- Inside a key, so much of which has been read, with some parentheses open in it. -/
  | key (read : List Char) (opened : Nat)
  /-- After a key. -/
  | afterKey

/-- Take apart the rest of a template, which starts at the given index. -/
def piecesFrom : Place → Nat → List Char → List Piece
  | .outside, _, [] => []
  | .outside, index, c :: rest =>
    if c = '%' then piecesFrom .percent (index + 1) rest
    else .char c :: piecesFrom .outside (index + 1) rest
  | .percent, _, [] => [.unfinished]
  | .percent, index, c :: rest =>
    if c = '(' then piecesFrom (.key [] 0) (index + 1) rest
    else if c = '%' then .char '%' :: piecesFrom .outside (index + 1) rest
    else conversion c index :: piecesFrom .outside (index + 1) rest
  | .key _ _, _, [] => [.unclosedKey]
  | .key read opened, index, c :: rest =>
    if c = ')' ∧ opened = 0 then
      .select (String.ofList read) :: piecesFrom .afterKey (index + 1) rest
    else
      let opened := if c = '(' then opened + 1 else if c = ')' then opened - 1 else opened
      piecesFrom (.key (read ++ [c]) opened) (index + 1) rest
  | .afterKey, _, [] => [.unfinished]
  | .afterKey, index, c :: rest => conversion c index :: piecesFrom .outside (index + 1) rest

/-- The pieces of a template. -/
def pieces (template : String) : List Piece := piecesFrom .outside 0 template.toList

/-- The whole number of an argument. -/
def wholeNumber : Scalar → Except TemplateFault Int
  | .int n => .ok n
  | .bool b => .ok (if b then 1 else 0)
  | .float x =>
    match x, x.whole? with
    | _, some n => .ok n
    | .nan, none => .error .undefinedNumber
    | _, none => .error .infiniteNumber
  | value => .error (.notNumber value.kind)

/-- Fill pieces with the waiting arguments, and keys from the mapping if there is one. -/
def fillPieces (mapping : Option (Entries Scalar)) :
    List Scalar → List Piece → Except TemplateFault (List Char)
  | waiting, [] =>
    if waiting.isEmpty || mapping.isSome then .ok [] else .error .tooManyArguments
  | waiting, .char c :: rest => (fillPieces mapping waiting rest).map (c :: ·)
  | _, .select key :: rest =>
    match mapping with
    | none => .error .notMapping
    | some entries =>
      match entries.find? key with
      | none => .error (.missingKey key)
      | some value => fillPieces mapping [value] rest
  | _, .unclosedKey :: _ => .error (if mapping.isSome then .unfinishedKey else .notMapping)
  | [], .plain :: _ => .error .tooFewArguments
  | value :: waiting, .plain :: rest =>
    (fillPieces mapping waiting rest).map (value.plain.toList ++ ·)
  | [], .number :: _ => .error .tooFewArguments
  | value :: waiting, .number :: rest => do
    let n ← wholeNumber value
    let filled ← fillPieces mapping waiting rest
    return n.repr.toList ++ filled
  | _, .unfinished :: _ => .error .unfinished
  | [], .unknown _ _ :: _ => .error .tooFewArguments
  | _ :: _, .unknown c index :: _ => .error (.unknownConversion c index)

/-- Fill a template. Without arguments it stands as it is. -/
def fill (template : String) : Arguments → Except TemplateFault String
  | .absent => .ok template
  | .positional [] => .ok template
  | .positional values => (fillPieces none values (pieces template)).map String.ofList
  | .mapping entries =>
    (fillPieces (some entries) [.dictionary entries] (pieces template)).map String.ofList

end FilterGraph.Log
