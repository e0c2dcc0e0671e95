import FilterGraph.Store.Construction
import FilterGraph.Store.Equality
import FilterGraph.Store.Validation

/-!
# Store sessions

A session on a store makes containers and objects, changes them and asks about them. Each step has a
value: what has been made, what has been changed, or the answer, which is a value like any other.
The value may get a name, under which later steps refer to it. A reference is a name followed by
parts: the field of an object or the place of an element in a list. A step that fails changes
nothing.
-/

set_option autoImplicit false

namespace FilterGraph.Store

/-- A name and the way from what it names to one of its parts. -/
structure Reference where
  name : String
  parts : List String
  deriving DecidableEq

/-- The reference that a text writes with dots between its parts. -/
def Reference.ofText (text : String) : Reference :=
  match text.splitOn "." with
  | [] => ⟨text, []⟩
  | name :: parts => ⟨name, parts⟩

/-- How a field of a new object is given. -/
inductive Given where
  /-- The field is left to its default. -/
  | absent
  /-- The field holds nothing. -/
  | nothing
  /-- The field holds what is referred to. -/
  | one (reference : Reference)
  /-- The field holds a new list of what is referred to. -/
  | many (references : List Reference)

/-- What is appended or assigned. -/
inductive Source where
  | scalar (value : Scalar)
  | reference (reference : Reference)

/-- How a new value is made. -/
inductive Making where
  | list (items : List Scalar)
  | dictionary (entries : List (String × Scalar))
  | keyed (values : Given)
  | raw (text : String)
  | operation (name : String) (options : Given)
  | stream (path name : String) (direction : Atom) (pads : Given)
  | stage (name : String) (inputPads outputPads operations : Given)
  /-- Options made of a value. -/
  | payload (value : Given)
  /-- An operation with options made of a value. -/
  | operationOf (name : String) (options : Given)
  /-- An input stream. -/
  | input (path name : String)
  /-- An output stream with a copy of its pads. -/
  | output (path name : String) (pads : Given)
  /-- A stage with copies of its lists. -/
  | stageOf (name : String) (inputPads outputPads operations : Given)

/-- What is changed in place. -/
inductive Change where
  | append (list : Reference) (item : Source)
  | put (dictionary : Reference) (key : String) (value : Scalar)
  | assign (object : Reference) (field : String) (value : Source)

/-- What is asked without changing anything. -/
inductive Question where
  | look (value : Reference)
  | same (a b : Reference)
  | equal (a b : Reference)
  | render (stage : Reference)
  | compile (nodes : List Reference) (strict : Bool)
  | validate (nodes : List Reference)

/-- What a step does. -/
inductive Action where
  | make (making : Making)
  | change (change : Change)
  | ask (question : Question)

/-- A step of a session, whose value may get a name. -/
structure Step where
  action : Action
  name : Option String := none

/-- The cells of a session and the values that have names. -/
structure State where
  cells : Cells := []
  names : Entries Value := []

namespace State

/-- The part of a value: an element of a list by its place, or a field. -/
def partOf (s : State) (value : Value) (part : String) : Except Failure Value :=
  match s.cells.content value, part.toNat? with
  | .list items, some place =>
    match items[place]? with
    | some item => .ok item
    | none => .error .beyondList
  | cell, _ =>
    match cell.field? part with
    | some value => .ok value
    | none => .error (.missingField cell.kind part)

/-- The value that a reference refers to. -/
def resolve (s : State) (reference : Reference) : Except Failure Value :=
  match s.names.find? reference.name with
  | none => .error (.unknownName reference.name)
  | some value => reference.parts.foldlM s.partOf value

/-- The value of a field that is given, and the cells with a list for it if it is a new one. -/
def given (s : State) (field : Given) (default : Cells → Value × Cells) :
    Except Failure (Value × Cells) :=
  match field with
  | .absent => .ok (default s.cells)
  | .nothing => .ok (.nothing, s.cells)
  | .one reference => (s.resolve reference).map fun value => (value, s.cells)
  | .many references =>
    (references.mapM s.resolve).map fun items => s.cells.alloc (.list items)

/-- The value that is appended or assigned. -/
def source (s : State) : Source → Except Failure (Value × Cells)
  | .scalar value => .ok (s.cells.build value)
  | .reference reference => (s.resolve reference).map fun value => (value, s.cells)

/-- The default for a field that is nothing. -/
def noValue (cells : Cells) : Value × Cells := (.nothing, cells)

/-- The default for a field that is a list. -/
def newList (cells : Cells) : Value × Cells := cells.alloc (.list [])

/-- The default for a field that is a dictionary. -/
def newDictionary (cells : Cells) : Value × Cells := cells.alloc (.dictionary [])

/-- Make a value. -/
def make (s : State) : Making → Except Failure (Value × Cells)
  | .list items =>
    let (items, cells) := s.cells.buildItems items
    return cells.alloc (.list items)
  | .dictionary entries =>
    let (entries, cells) := s.cells.buildEntries (Entries.ofPairs entries)
    return cells.alloc (.dictionary entries)
  | .keyed values => do
    let (values, cells) ← s.given values newDictionary
    return cells.alloc (.object .keyed [values])
  | .raw text =>
    let (text, cells) := s.cells.buildText text
    return cells.alloc (.object .raw [text])
  | .operation name options => do
    let (options, cells) ← s.given options Cells.newOptions
    return cells.newOperation name options
  | .stream path name direction pads => do
    let (pads, cells) ← s.given pads noValue
    return cells.newStream path name direction pads
  | .stage name inputPads outputPads operations => do
    let (inputPads, cells) ← s.given inputPads newList
    let (outputPads, cells) ← { s with cells }.given outputPads newList
    let (operations, cells) ← { s with cells }.given operations newList
    return cells.newStage name inputPads outputPads operations
  | .payload value => do
    let (value, cells) ← s.given value noValue
    cells.makeOptions value
  | .operationOf name options => do
    let (options, cells) ← s.given options noValue
    cells.makeOperation name options
  | .input path name => return s.cells.makeInput path name
  | .output path name pads => do
    let (pads, cells) ← s.given pads noValue
    cells.makeOutput path name pads
  | .stageOf name inputPads outputPads operations => do
    let (inputPads, cells) ← s.given inputPads noValue
    let (outputPads, cells) ← { s with cells }.given outputPads noValue
    let (operations, cells) ← { s with cells }.given operations noValue
    cells.makeStage name inputPads outputPads operations

/-- Add an element to the end of a list. -/
def append (s : State) (list : Reference) (item : Source) : Except Failure (Value × Cells) := do
  let target ← s.resolve list
  let (item, cells) ← s.source item
  match target, cells.content target with
  | .ref address, .list items => return (target, cells.write address (.list (items ++ [item])))
  | _, cell => .error (.missingField cell.kind "append")

/-- Give a value to a key of a dictionary. -/
def put (s : State) (dictionary : Reference) (key : String) (value : Scalar) :
    Except Failure (Value × Cells) := do
  let target ← s.resolve dictionary
  let (value, cells) := s.cells.build value
  match target, cells.content target with
  | .ref address, .dictionary entries =>
    return (target, cells.write address (.dictionary (entries.put key value)))
  | _, .list _ => .error .listKey
  | _, cell => .error (.notAssignable cell.kind)

/-- Give a value to a field of an object, which need not have had the field. -/
def assign (s : State) (object : Reference) (field : String) (value : Source) :
    Except Failure (Value × Cells) := do
  let target ← s.resolve object
  let (value, cells) ← s.source value
  match target, cells.content target with
  | .ref address, .record shape fields =>
    return (target, cells.write address (.record shape (fields.put field value)))
  | _, cell => .error (.missingField cell.kind field)

/-- What is seen of some values now. -/
def views (s : State) (values : List Reference) : Except Failure (List View) :=
  values.mapM fun value => (s.resolve value).map s.cells.view

/-- The answer to a question. -/
def ask (s : State) : Question → Except Failure (Value × Cells)
  | .look value => return (← s.resolve value, s.cells)
  | .same a b => do
    let same := (← s.resolve a) == (← s.resolve b)
    return (.atom (.bool same), s.cells)
  | .equal a b => do
    let equal := s.cells.equal (← s.resolve a) (← s.resolve b)
    return (.atom (.bool equal), s.cells)
  | .render stage => do
    let stage ← (s.cells.view (← s.resolve stage)).toStage
    return s.cells.buildText (← stage.render)
  | .compile nodes strict => return s.cells.buildText (← View.command (← s.views nodes) strict)
  | .validate nodes => return s.cells.newReport (← View.validate (← s.views nodes))

/-- Change something in place, and give what has been changed. -/
def change (s : State) : Change → Except Failure (Value × Cells)
  | .append list item => s.append list item
  | .put dictionary key value => s.put dictionary key value
  | .assign object field value => s.assign object field value

/-- The value of what a step does, and the cells after it. -/
def perform (s : State) : Action → Except Failure (Value × Cells)
  | .make making => s.make making
  | .change change => s.change change
  | .ask question => s.ask question

/-- One step of a session and what is seen of its value. -/
def step (s : State) (step : Step) : State × Except Failure View :=
  match s.perform step.action with
  | .ok (value, cells) =>
    let names := step.name.elim s.names fun name => s.names.put name value
    ({ cells, names }, .ok (cells.view value))
  | .error failure => (s, .error failure)

end State

/-- The state after the steps of a session from a state on. -/
def State.after (s : State) (steps : List Step) : State :=
  steps.foldl (fun s step => (s.step step).1) s

/-- What is seen of the values of the steps of a session from a state on. -/
def answers : State → List Step → List (Except Failure View)
  | _, [] => []
  | s, step :: rest =>
    let (next, answer) := s.step step
    answer :: answers next rest

end FilterGraph.Store
