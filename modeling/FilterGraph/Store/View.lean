import FilterGraph.Store.Basic

/-!
# What is seen of a store

A view is what is seen from a value: the value with everything it refers to, as a tree. A graph is
compiled and validated as it is seen at that moment. From a part of the store that contains itself
nothing is seen below the depth to which the view goes, which is the number of cells.

Like a scalar, a view has two texts. An object is written as the word for its kind with its fields
in parentheses.
-/

set_option autoImplicit false

namespace FilterGraph.Store

/-- A value with all its parts. -/
inductive View where
  | atom (value : Atom)
  | list (items : List View)
  | dictionary (entries : List (String × View))
  | record (shape : Shape) (fields : List (String × View))

/-- What is seen of a value down to some depth. -/
def Cells.viewTo (cells : Cells) : Nat → Value → View
  | 0, .atom a => .atom a
  | 0, .ref _ => .atom .none
  | depth + 1, value =>
    match cells.content value with
    | .atom a => .atom a
    | .list items => .list (items.map (cells.viewTo depth))
    | .dictionary entries => .dictionary (entries.map fun e => (e.1, cells.viewTo depth e.2))
    | .record shape fields => .record shape (fields.map fun e => (e.1, cells.viewTo depth e.2))

/-- What is seen of a value. -/
def Cells.view (cells : Cells) (value : Value) : View := cells.viewTo (cells.length + 1) value

namespace View

/-- The kind of what is seen. -/
def kind : View → Kind
  | .atom a => a.kind
  | .list _ => .list
  | .dictionary _ => .dictionary
  | .record shape _ => shape.kind

/-- Whether what is seen is void. -/
def isVoid : View → Bool
  | .atom a => a.isVoid
  | .list items => items.isEmpty
  | .dictionary entries => entries.isEmpty
  | .record _ _ => false

/-- The characters of a text that is seen. -/
def characters? : View → Option String
  | .atom a => a.characters?
  | _ => none

mutual
/-- The shown text of what is seen. -/
def shown : View → String
  | .atom a => a.shown
  | .list items => "[" ++ String.intercalate ", " (shownItems items) ++ "]"
  | .dictionary entries => "\x7b" ++ String.intercalate ", " (shownEntries entries) ++ "\x7d"
  | .record shape fields =>
    shape.kind.label ++ "(" ++ String.intercalate ", " (shownFields shape.fieldNames fields) ++ ")"

/-- The shown texts of the items of a list. -/
def shownItems : List View → List String
  | [] => []
  | item :: rest => item.shown :: shownItems rest

/-- The shown texts of the entries of a dictionary. -/
def shownEntries : List (String × View) → List String
  | [] => []
  | (key, value) :: rest => (Text.quoted key ++ ": " ++ value.shown) :: shownEntries rest

/-- The shown texts of the fields with some names. -/
def shownFields (names : List String) : List (String × View) → List String
  | [] => []
  | (name, value) :: rest =>
    if name ∈ names then (name ++ "=" ++ value.shown) :: shownFields names rest
    else shownFields names rest
end

/-- The plain text of what is seen. -/
def plain : View → String
  | .atom a => a.plain
  | v => v.shown

/-- A field of an object or of an atom. -/
def field? : View → String → Option View
  | .record _ fields, name => Entries.find? name fields
  | .atom a, name => (a.field? name).map .atom
  | _, _ => none

/-- A field of what should be an object that has it. -/
def field (v : View) (name : String) : Except Failure View :=
  match v.field? name with
  | some value => .ok value
  | none => .error (.missingField v.kind name)

/-- A field of an object that is known to have it. -/
def get (v : View) (name : String) : View := (v.field? name).getD (.atom .none)

/-- What is seen as a row of elements: the items of a list, the keys of a dictionary, or the
characters of a text. -/
def elements (v : View) : Except Failure (List View) :=
  match v, v.characters? with
  | _, some s => .ok (s.toList.map fun c => .atom (.text (.singleton c)))
  | .list items, _ => .ok items
  | .dictionary entries, _ => .ok (entries.map fun e => .atom (.text e.1))
  | v, _ => .error (.notIterable v.kind)

/-- Whether a stage is seen. -/
def isStage : View → Bool
  | .record .stage _ => true
  | _ => false

/-- Whether a stream with the given direction is seen. -/
def isStream (direction : Direction) (v : View) : Bool :=
  match v with
  | .record .stream _ => (v.get "direction").characters? == some direction.text
  | _ => false

end View

end FilterGraph.Store
