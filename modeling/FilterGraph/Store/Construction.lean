import FilterGraph.Store.View

/-!
# Making objects in a store

An object is made plainly, in which case it shares the containers that it is given, or by one of
the constructors for nodes and options, which copy them. A copy is a new list or dictionary with
the same elements; the elements themselves are shared either way.
-/

set_option autoImplicit false

namespace FilterGraph.Store.Cells

variable (cells : Cells)

/-- The elements that a new list takes over from a value: those of a list, the keys of a dictionary
or the characters of a text. -/
def elements (value : Value) : Except Failure (List Value × Cells) :=
  match cells.content value with
  | .list items => .ok (items, cells)
  | .dictionary entries => .ok (cells.buildTexts (entries.map Prod.fst))
  | .atom a =>
    match a.characters? with
    | some s => .ok (cells.buildTexts (s.toList.map String.singleton))
    | none => .error (.notIterable a.kind)
  | .record shape _ => .error (.notIterable shape.kind)

/-- A new list with the elements of a value; what is void has no elements. -/
def copyList (value : Value) : Except Failure (Value × Cells) :=
  if (cells.content value).isVoid then .ok (cells.alloc (.list []))
  else (cells.elements value).map fun (items, cells) => cells.alloc (.list items)

/-- A new list with the elements of a value, or nothing for nothing. -/
def copyListOrNone (value : Value) : Except Failure (Value × Cells) :=
  if value = .nothing then .ok (.nothing, cells)
  else (cells.elements value).map fun (items, cells) => cells.alloc (.list items)

/-- Keyed options without any keys. -/
def newOptions : Value × Cells :=
  let (values, cells) := cells.alloc (.dictionary [])
  cells.alloc (.object .keyed [values])

/-- Options made of a value: a payload is taken as it is, a dictionary is copied. -/
def makeOptions (value : Value) : Except Failure (Value × Cells) :=
  match cells.content value with
  | .atom .none => .ok cells.newOptions
  | .record .keyed _ => .ok (value, cells)
  | .record .raw _ => .ok (value, cells)
  | .dictionary entries =>
    let (values, cells) := cells.alloc (.dictionary entries)
    .ok (cells.alloc (.object .keyed [values]))
  | .atom a =>
    if a.characters?.isSome then .ok (cells.alloc (.object .raw [value]))
    else .error (.notOptions a.kind)
  | cell => .error (.notOptions cell.kind)

/-- An operation with the given options. -/
def newOperation (name : String) (options : Value) : Value × Cells :=
  let (name, cells) := cells.buildText name
  cells.alloc (.object .operation [name, options])

/-- A stream whose pads are the given ones. -/
def newStream (path name : String) (direction : Atom) (pads : Value) : Value × Cells :=
  let (path, cells) := cells.buildText path
  let (name, cells) := cells.buildText name
  let (direction, cells) := cells.buildAtom direction
  cells.alloc (.object .stream [path, name, direction, pads])

/-- A stage whose pads and operations are the given ones. -/
def newStage (name : String) (inputPads outputPads operations : Value) : Value × Cells :=
  let (name, cells) := cells.buildText name
  cells.alloc (.object .stage [name, inputPads, outputPads, operations])

/-- A new list of some texts. -/
def newTexts (texts : List String) : Value × Cells :=
  let (items, cells) := cells.buildTexts texts
  cells.alloc (.list items)

/-- A report. -/
def newReport (report : Report) : Value × Cells :=
  let (errors, cells) := cells.newTexts report.errors
  let (warnings, cells) := cells.newTexts report.warnings
  cells.alloc (.object .report [.atom (.bool report.valid), errors, warnings])

/-- An operation with options made of a value. -/
def makeOperation (name : String) (options : Value) : Except Failure (Value × Cells) := do
  let (options, cells) ← cells.makeOptions options
  return cells.newOperation name options

/-- An input stream. -/
def makeInput (path name : String) : Value × Cells :=
  cells.newStream path name (.direction .input) .nothing

/-- An output stream with a copy of its pads. -/
def makeOutput (path name : String) (pads : Value) : Except Failure (Value × Cells) := do
  let (pads, cells) ← cells.copyListOrNone pads
  return cells.newStream path name (.direction .output) pads

/-- A stage with copies of its pads and of its chain of operations. -/
def makeStage (name : String) (inputPads outputPads operations : Value) :
    Except Failure (Value × Cells) := do
  let (inputPads, cells) ← cells.copyList inputPads
  let (outputPads, cells) ← cells.copyList outputPads
  let (operations, cells) ← cells.copyList operations
  return cells.newStage name inputPads outputPads operations

end FilterGraph.Store.Cells
