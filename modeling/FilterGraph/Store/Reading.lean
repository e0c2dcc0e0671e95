import FilterGraph.Store.View
import Mathlib.Data.List.Forall2

/-!
# Reading nodes off a view

A value of a store stands for a node of a graph when each of its fields holds what such a field is
meant to hold: pads are lists of texts, operations are objects with a name and with options, and so
on. `View.node?` gives the node that is seen. What is neither a stream, a stage nor an operation is
a value that takes no part in a graph.
-/

set_option autoImplicit false

namespace FilterGraph.Store.View

/-- The text that is seen. -/
def text? : View → Option String
  | .atom (.text s) => some s
  | _ => none

/-- The items of a list, each of them read. -/
def items? {α : Type} (read : View → Option α) : View → Option (List α)
  | .list items => items.mapM read
  | _ => none

mutual
/-- The scalar that is seen, if no object and no direction is part of it. -/
def scalar? : View → Option Scalar
  | .atom .none => some .none
  | .atom (.bool b) => some (.bool b)
  | .atom (.int n) => some (.int n)
  | .atom (.float x) => some (.float x)
  | .atom (.text s) => some (.text s)
  | .atom (.direction _) => none
  | .list items => (scalars? items).map .list
  | .dictionary entries => (scalarEntries? entries).map .dictionary
  | .record _ _ => none

/-- The items of a list of scalars. -/
def scalars? : List View → Option (List Scalar)
  | [] => some []
  | item :: rest => do return (← scalar? item) :: (← scalars? rest)

/-- The entries of a dictionary of scalars. -/
def scalarEntries? : List (String × View) → Option (List (String × Scalar))
  | [] => some []
  | (key, value) :: rest => do return (key, ← scalar? value) :: (← scalarEntries? rest)
end

/-- The value of one of the fields, read. -/
def readField {α : Type} (name : String) (read : View → Option α) (fields : List (String × View)) :
    Option α :=
  (Entries.find? name fields).bind read

/-- The values of keyed options. -/
def values? : View → Option (Entries Scalar)
  | .dictionary entries => scalarEntries? entries
  | _ => none

/-- The options that are seen: a payload, or a loose value that is a scalar. -/
def options? : View → Option Options
  | .record .keyed fields => (readField "values" values? fields).map fun values =>
    .payload (.keyed values)
  | .record .raw fields => (readField "text" text? fields).map fun text => .payload (.raw text)
  | v => v.scalar?.map .loose

/-- The operation that is seen. -/
def operation? : View → Option Operation
  | .record .operation fields => do
    let name ← readField "name" text? fields
    let options ← readField "options" options? fields
    return { name, options }
  | _ => none

/-- A direction may be given as its text. -/
def direction? (v : View) : Option Direction := v.characters?.map .ofText

/-- The mapped pads that are seen, where nothing stands for no list of pads. -/
def mappedPads? : View → Option (Option (List String))
  | .atom .none => some none
  | v => (v.items? text?).map some

/-- The stream that is seen. -/
def stream? : View → Option Stream
  | .record .stream fields => do
    let path ← readField "path" text? fields
    let name ← readField "name" text? fields
    let direction ← readField "direction" direction? fields
    let mappedPads ← readField "mapped_pads" mappedPads? fields
    return { path, name, direction, mappedPads }
  | _ => none

/-- The stage that is seen. -/
def stage? : View → Option Stage
  | .record .stage fields => do
    let name ← readField "name" text? fields
    let inputPads ← readField "input_pads" (items? text?) fields
    let outputPads ← readField "output_pads" (items? text?) fields
    let operations ← readField "operations" (items? operation?) fields
    return { name, inputPads, outputPads, operations }
  | _ => none

/-- The member of a graph that is seen. -/
def node? (v : View) : Option Node :=
  match v with
  | .record .stream _ => v.stream?.map .stream
  | .record .stage _ => v.stage?.map .stage
  | .record .operation _ => v.operation?.map .operation
  | v => v.scalar?.map .value

/-- A text is read off a text only. -/
theorem text?_eq_some {v : View} {s : String} (h : v.text? = some s) : v = .atom (.text s) := by
  unfold text? at h
  split at h
  · rw [Option.some.inj h]
  · exact nomatch h

/-- The items of a list are read off the list one by one. -/
theorem items?_eq_some {α : Type} {read : View → Option α} {v : View} {members : List α}
    (h : v.items? read = some members) :
    ∃ items, v = .list items ∧
      List.Forall₂ (fun item member => read item = some member) items members := by
  have hitems : ∀ (items : List View) (members : List α), items.mapM read = some members →
      List.Forall₂ (fun item member => read item = some member) items members := by
    intro items
    induction items with
    | nil =>
      intro members h
      obtain rfl : [] = members := by simpa using h
      exact .nil
    | cons item rest ih =>
      intro members h
      simp only [List.mapM_cons, Option.bind_eq_bind, Option.bind_eq_some_iff, Option.pure_def,
        Option.some.injEq] at h
      obtain ⟨member, hmember, others, hothers, rfl⟩ := h
      exact .cons hmember (ih others hothers)
  unfold items? at h
  split at h
  · rename_i items
    exact ⟨items, rfl, hitems items members h⟩
  · exact nomatch h

/-- The value of a field is read off what is seen of the field. -/
theorem readField_eq_some {α : Type} {name : String} {read : View → Option α}
    {fields : List (String × View)} {value : α} (h : readField name read fields = some value) :
    ∃ v, Entries.find? name fields = some v ∧ read v = some value :=
  Option.bind_eq_some_iff.1 h

/-- An operation is read off an object with the two fields of an operation. -/
theorem operation?_eq_some {v : View} {o : Operation} (h : v.operation? = some o) :
    ∃ fields, v = .record .operation fields ∧ readField "name" text? fields = some o.name ∧
      readField "options" options? fields = some o.options := by
  unfold operation? at h
  split at h
  · rename_i fields
    simp only [Option.bind_eq_bind, Option.bind_eq_some_iff, Option.pure_def,
      Option.some.injEq] at h
    obtain ⟨name, hname, options, hoptions, rfl⟩ := h
    exact ⟨fields, rfl, hname, hoptions⟩
  · exact nomatch h

/-- A stage is read off an object with the four fields of a stage. -/
theorem stage?_eq_some {v : View} {s : Stage} (h : v.stage? = some s) :
    ∃ fields, v = .record .stage fields ∧ readField "name" text? fields = some s.name ∧
      readField "input_pads" (items? text?) fields = some s.inputPads ∧
      readField "output_pads" (items? text?) fields = some s.outputPads ∧
      readField "operations" (items? operation?) fields = some s.operations := by
  unfold stage? at h
  split at h
  · rename_i fields
    simp only [Option.bind_eq_bind, Option.bind_eq_some_iff, Option.pure_def,
      Option.some.injEq] at h
    obtain ⟨name, hname, inputPads, hinput, outputPads, houtput, operations, hoperations, rfl⟩ := h
    exact ⟨fields, rfl, hname, hinput, houtput, hoperations⟩
  · exact nomatch h

/-- A stream is read off an object with the four fields of a stream. -/
theorem stream?_eq_some {v : View} {s : Stream} (h : v.stream? = some s) :
    ∃ fields, v = .record .stream fields ∧ readField "path" text? fields = some s.path ∧
      readField "name" text? fields = some s.name ∧
      readField "direction" direction? fields = some s.direction ∧
      readField "mapped_pads" mappedPads? fields = some s.mappedPads := by
  unfold stream? at h
  split at h
  · rename_i fields
    simp only [Option.bind_eq_bind, Option.bind_eq_some_iff, Option.pure_def,
      Option.some.injEq] at h
    obtain ⟨path, hpath, name, hname, direction, hdirection, mappedPads, hmapped, rfl⟩ := h
    exact ⟨fields, rfl, hpath, hname, hdirection, hmapped⟩
  · exact nomatch h

end FilterGraph.Store.View
