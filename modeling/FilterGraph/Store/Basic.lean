import FilterGraph.Entries
import FilterGraph.Store.Atom

/-!
# A store of containers and objects

Lists, dictionaries, options, operations, streams, stages and reports that are built step by step
live in cells of a store and refer to each other by the addresses of their cells, so that one of
them may be part of several others. A cell is allocated once and may be written again. Nothing is
asked of what a field of an object holds, and an object may be given further fields than those of
its shape; these are neither shown nor compared.

`Reaches` says that one cell is part of what is seen from another one.
-/

set_option autoImplicit false

namespace FilterGraph.Store

/-- The shapes of the objects that have fields. -/
inductive Shape where
  | keyed
  | raw
  | operation
  | stream
  | stage
  | report
  deriving DecidableEq

/-- The fields that every object of a shape has, in order. -/
def Shape.fieldNames : Shape → List String
  | .keyed => ["values"]
  | .raw => ["text"]
  | .operation => ["name", "options"]
  | .stream => ["path", "name", "direction", "mapped_pads"]
  | .stage => ["name", "input_pads", "output_pads", "operations"]
  | .report => ["valid", "errors", "warnings"]

/-- The kind of the objects of a shape. -/
def Shape.kind : Shape → Kind
  | .keyed => .keyed
  | .raw => .raw
  | .operation => .operation
  | .stream => .stream
  | .stage => .stage
  | .report => .report

/-- What a name, a field or an element holds. -/
inductive Value where
  | atom (value : Atom)
  | ref (address : Nat)
  deriving DecidableEq

/-- Nothing. -/
def Value.nothing : Value := .atom .none

/-- What a cell holds. -/
inductive Cell where
  | atom (value : Atom)
  | list (items : List Value)
  | dictionary (entries : Entries Value)
  | record (shape : Shape) (fields : Entries Value)

namespace Cell

/-- The kind of the thing in a cell. -/
def kind : Cell → Kind
  | .atom a => a.kind
  | .list _ => .list
  | .dictionary _ => .dictionary
  | .record shape _ => shape.kind

/-- Whether the thing in a cell is void: an atom that is, or a container without elements. -/
def isVoid : Cell → Bool
  | .atom a => a.isVoid
  | .list items => items.isEmpty
  | .dictionary entries => entries.isEmpty
  | .record _ _ => false

/-- The values that are direct parts of a cell. -/
def parts : Cell → List Value
  | .atom _ => []
  | .list items => items
  | .dictionary entries => entries.map Prod.snd
  | .record _ fields => fields.map Prod.snd

/-- A field of an object or of an atom. -/
def field? : Cell → String → Option Value
  | .record _ fields, name => fields.find? name
  | .atom a, name => (a.field? name).map .atom
  | _, _ => none

/-- A cell with an object whose fields, in the order of its shape, hold some values. -/
def object (shape : Shape) (values : List Value) : Cell :=
  .record shape (shape.fieldNames.zip values)

end Cell

/-- The cells of a store; an address is a place in the list. -/
abbrev Cells := List Cell

namespace Cells

/-- The cell at an address. -/
def read? (cells : Cells) (address : Nat) : Option Cell := cells[address]?

/-- The thing that a value is or refers to. -/
def content (cells : Cells) : Value → Cell
  | .atom a => .atom a
  | .ref address => (cells.read? address).getD (.atom .none)

/-- Put something into a cell of its own. -/
def alloc (cells : Cells) (cell : Cell) : Value × Cells := (.ref cells.length, cells ++ [cell])

/-- Change what is in a cell. -/
def write (cells : Cells) (address : Nat) (cell : Cell) : Cells := cells.set address cell

/-- Build an atom, in a cell of its own unless there is only one like it. -/
def buildAtom (cells : Cells) (a : Atom) : Value × Cells :=
  if a.isUnique then (.atom a, cells) else cells.alloc (.atom a)

/-- Build a text. -/
def buildText (cells : Cells) (s : String) : Value × Cells := cells.buildAtom (.text s)

/-- Build some texts. -/
def buildTexts (cells : Cells) : List String → List Value × Cells
  | [] => ([], cells)
  | s :: rest =>
    let (value, cells) := cells.buildText s
    let (values, cells) := buildTexts cells rest
    (value :: values, cells)

mutual
/-- Build a scalar in the store. -/
def build (cells : Cells) : Scalar → Value × Cells
  | .none => cells.buildAtom .none
  | .bool b => cells.buildAtom (.bool b)
  | .int n => cells.buildAtom (.int n)
  | .float x => cells.buildAtom (.float x)
  | .text s => cells.buildAtom (.text s)
  | .list items =>
    let (values, cells) := buildItems cells items
    cells.alloc (.list values)
  | .dictionary entries =>
    let (values, cells) := buildEntries cells entries
    cells.alloc (.dictionary values)

/-- Build the items of a list. -/
def buildItems (cells : Cells) : List Scalar → List Value × Cells
  | [] => ([], cells)
  | item :: rest =>
    let (value, cells) := build cells item
    let (values, cells) := buildItems cells rest
    (value :: values, cells)

/-- Build the entries of a dictionary. -/
def buildEntries (cells : Cells) : List (String × Scalar) → Entries Value × Cells
  | [] => ([], cells)
  | (key, item) :: rest =>
    let (value, cells) := build cells item
    let (values, cells) := buildEntries cells rest
    ((key, value) :: values, cells)
end

end Cells

/-- One cell is seen from another one: it is that cell itself or, step by step, a part of it. -/
inductive Reaches (cells : Cells) (start : Nat) : Nat → Prop where
  | refl : Reaches cells start start
  | part {middle address : Nat} {cell : Cell} : Reaches cells start middle →
      cells.read? middle = some cell → .ref address ∈ cell.parts → Reaches cells start address

/-- A new cell holds what it was allocated for. -/
theorem Cells.read?_alloc (cells : Cells) (cell : Cell) :
    (cells.alloc cell).2.read? cells.length = some cell := by
  simp [alloc, read?]

/-- A cell holds what has been written to it. -/
theorem Cells.read?_write_self {cells : Cells} {address : Nat} (h : address < cells.length)
    (cell : Cell) : (cells.write address cell).read? address = some cell := by
  simp [write, read?, h]

/-- Writing to one cell changes no other cell. -/
theorem Cells.read?_write_ne {cells : Cells} {address other : Nat} (h : other ≠ address)
    (cell : Cell) : (cells.write address cell).read? other = cells.read? other := by
  simp [write, read?, Ne.symm h]

end FilterGraph.Store
