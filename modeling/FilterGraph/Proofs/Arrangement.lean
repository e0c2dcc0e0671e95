import FilterGraph.Validation
import Mathlib.Data.List.Forall2

/-!
# Rearranged graphs

A graph is rearranged when its nodes are put in another order and, inside of the nodes, the pads and
the operations as well. This file says what that leaves as it is before anything is looked for in
the graph: the parts of the graph, which are its inputs, its outputs and its stages, and its labels,
all of them up to order (`Graph.Rearranges.sameParts`, `Graph.SameParts.producedPads_perm`,
`Graph.SameParts.consumedPads_perm`).

The statements about labels only ask for the same parts. So they also hold of two graphs that mix
the same streams and stages in different ways.
-/

set_option autoImplicit false

namespace FilterGraph

open scoped List

/-! ### Lists up to order -/

/-- Once the members of one list are put in some order, they are related one by one to those of
another list. -/
def UpToOrder {α β : Type} (related : α → β → Prop) (members : List α) (others : List β) : Prop :=
  ∃ ordered, members.Perm ordered ∧ List.Forall₂ related ordered others

namespace UpToOrder

variable {α β γ δ : Type} {related : α → β → Prop} {members : List α} {others : List β}

/-- A list is related to itself if each member is. -/
theorem refl {related : α → α → Prop} (h : ∀ a, related a a) (members : List α) :
    UpToOrder related members members :=
  ⟨members, .refl members, List.forall₂_same.2 fun a _ => h a⟩

/-- Lists that are related up to order have the same length. -/
theorem length_eq (h : UpToOrder related members others) : members.length = others.length := by
  obtain ⟨ordered, hperm, hrelated⟩ := h
  rw [hperm.length_eq, hrelated.length_eq]

/-- Lists that are related up to order are empty together. -/
theorem isEmpty_eq (h : UpToOrder related members others) : members.isEmpty = others.isEmpty := by
  rw [Bool.eq_iff_iff, List.isEmpty_iff_length_eq_zero, List.isEmpty_iff_length_eq_zero,
    h.length_eq]

/-- If related members are kept or left out together and become related, the lists of what they
become are related up to order again. -/
theorem filterMap {chosen : γ → δ → Prop} {choose : α → Option γ} {chooseOther : β → Option δ}
    (hchoose : ∀ a b, related a b → Option.Rel chosen (choose a) (chooseOther b))
    (h : UpToOrder related members others) :
    UpToOrder chosen (members.filterMap choose) (others.filterMap chooseOther) := by
  obtain ⟨ordered, hperm, hrelated⟩ := h
  exact ⟨ordered.filterMap choose, hperm.filterMap choose,
    List.rel_filterMap (fun a b hab => hchoose a b hab) hrelated⟩

/-- If related members give the same up to order, so do the lists of them. -/
theorem flatMap_perm {give : α → List γ} {giveOther : β → List γ}
    (hgive : ∀ a b, related a b → (give a).Perm (giveOther b))
    (h : UpToOrder related members others) :
    (members.flatMap give).Perm (others.flatMap giveOther) := by
  obtain ⟨ordered, hperm, hrelated⟩ := h
  refine (hperm.flatMap_right give).trans ?_
  -- the order is settled, and what is left goes member by member
  clear hperm
  induction hrelated with
  | nil => exact .refl _
  | cons hab _ ih =>
    rw [List.flatMap_cons, List.flatMap_cons]
    exact (hgive _ _ hab).append ih

/-- If related members are kept or left out together and have the same value, the values of the kept
ones are the same up to order. -/
theorem map_filter_perm {keep : α → Bool} {keepOther : β → Bool} {value : α → γ}
    {valueOther : β → γ} (hkeep : ∀ a b, related a b → keep a = keepOther b)
    (hvalue : ∀ a b, related a b → value a = valueOther b)
    (h : UpToOrder related members others) :
    ((members.filter keep).map value).Perm ((others.filter keepOther).map valueOther) := by
  obtain ⟨ordered, hperm, hrelated⟩ := h
  refine ((hperm.filter keep).map value).trans (.of_eq ?_)
  clear hperm
  induction hrelated with
  | nil => rfl
  | cons hab _ ih =>
    rw [List.filter_cons, List.filter_cons, hkeep _ _ hab]
    split
    · rw [List.map_cons, List.map_cons, hvalue _ _ hab, ih]
    · exact ih

end UpToOrder

/-! ### Rearranged graphs -/

/-- The streams are the same but for the order of the pads that they take in. -/
structure Stream.Rearranges (s t : Stream) : Prop where
  path : s.path = t.path
  name : s.name = t.name
  direction : s.direction = t.direction
  mappedPads : Option.Rel List.Perm s.mappedPads t.mappedPads

/-- A stream is a rearrangement of itself. -/
theorem Stream.Rearranges.refl (s : Stream) : s.Rearranges s where
  path := rfl
  name := rfl
  direction := rfl
  mappedPads := by
    cases s.mappedPads with
    | none => exact .none
    | some pads => exact .some (.refl pads)

/-- The stages are the same but for the order of their pads and of their operations. -/
structure Stage.Rearranges (s t : Stage) : Prop where
  name : s.name = t.name
  inputPads : s.inputPads.Perm t.inputPads
  outputPads : s.outputPads.Perm t.outputPads
  operations : s.operations.Perm t.operations

/-- A stage is a rearrangement of itself. -/
theorem Stage.Rearranges.refl (s : Stage) : s.Rearranges s where
  name := rfl
  inputPads := .refl _
  outputPads := .refl _
  operations := .refl _

/-- The nodes are the same but for the order inside of them. -/
inductive Node.Rearranges : Node → Node → Prop where
  | stream {s t : Stream} (h : s.Rearranges t) : Rearranges (.stream s) (.stream t)
  | stage {s t : Stage} (h : s.Rearranges t) : Rearranges (.stage s) (.stage t)
  | operation (o : Operation) : Rearranges (.operation o) (.operation o)
  | value (v : Scalar) : Rearranges (.value v) (.value v)

/-- The graphs are the same but for the order of their nodes and the order inside of these. -/
def Graph.Rearranges (g h : Graph) : Prop := UpToOrder Node.Rearranges g h

/-- The graphs have the same inputs, outputs and stages, but for their order and for the order
inside of them. -/
structure Graph.SameParts (g h : Graph) : Prop where
  inputs : UpToOrder Stream.Rearranges g.inputs h.inputs
  outputs : UpToOrder Stream.Rearranges g.outputs h.outputs
  stages : UpToOrder Stage.Rearranges g.stages h.stages

/-- Nodes that are the same but for the order inside of them are the same part of a graph, if they
are one at all. -/
theorem Node.Rearranges.part {n m : Node} (h : n.Rearranges m) :
    Option.Rel Stream.Rearranges n.input? m.input? ∧
      Option.Rel Stream.Rearranges n.output? m.output? ∧
      Option.Rel Stage.Rearranges n.stage? m.stage? := by
  cases h with
  | stream hst =>
    simp only [Node.input?, Node.output?, hst.direction]
    refine ⟨?_, ?_, .none⟩
    all_goals
      split
      · exact .some hst
      · exact .none
  | stage hst => exact ⟨.none, .none, .some hst⟩
  | operation o => exact ⟨.none, .none, .none⟩
  | value v => exact ⟨.none, .none, .none⟩

/-- Rearranged graphs have the same parts, since each node is the same part as the one it is related
to. -/
theorem Graph.Rearranges.sameParts {g h : Graph} (hgh : g.Rearranges h) : g.SameParts h where
  inputs := hgh.filterMap fun _ _ hnm => hnm.part.1
  outputs := hgh.filterMap fun _ _ hnm => hnm.part.2.1
  stages := hgh.filterMap fun _ _ hnm => hnm.part.2.2

/-! ### The labels of rearranged graphs -/

/-- Rearranged streams take in the same pads, each as often. -/
theorem Stream.Rearranges.pads_perm {s t : Stream} (h : s.Rearranges t) : s.pads.Perm t.pads := by
  obtain ⟨path, name, direction, mappedPads⟩ := s
  obtain ⟨path', name', direction', mappedPads'⟩ := t
  cases h.mappedPads with
  | none => exact .refl _
  | some hpads => exact hpads

namespace Graph

variable {g h : Graph}

namespace SameParts

/-- Rearranged outputs take in the same pads, each as often. -/
theorem mappedPads_perm (hparts : g.SameParts h) : g.mappedPads.Perm h.mappedPads :=
  hparts.outputs.flatMap_perm fun _ _ hst => hst.pads_perm

/-- Rearranged stages put out the same pads, each as often. -/
theorem producedPads_perm (hparts : g.SameParts h) : g.producedPads.Perm h.producedPads :=
  hparts.stages.flatMap_perm fun _ _ hst => hst.outputPads

end SameParts

/-- What is taken in is what the stages and what the outputs take in, for any order of the nodes. -/
theorem consumedPads_perm (g : Graph) :
    g.consumedPads.Perm (g.stages.flatMap Stage.inputPads ++ g.mappedPads) := by
  induction g with
  | nil => exact .refl _
  | cons n rest ih =>
    cases n with
    | stage s =>
      show (s.inputPads ++ consumedPads rest).Perm
        ((s.inputPads ++ (stages rest).flatMap Stage.inputPads) ++ mappedPads rest)
      rw [List.append_assoc]
      exact ih.append_left s.inputPads
    | stream s =>
      by_cases hdirection : s.direction = .output
      · have houtputs : outputs (.stream s :: rest) = s :: outputs rest := by
          simp [outputs, Node.output?, hdirection]
        have hconsumed : consumedPads (.stream s :: rest) = s.pads ++ consumedPads rest := by
          simp [consumedPads, Node.consumedPads, hdirection]
        have hmapped : mappedPads (.stream s :: rest) = s.pads ++ mappedPads rest := by
          simp [mappedPads, houtputs]
        rw [hconsumed, hmapped]
        -- on the right the pads of an output come after those of all stages
        exact (ih.append_left s.pads).trans (List.perm_append_comm_assoc _ _ _)
      · have houtputs : outputs (.stream s :: rest) = outputs rest := by
          simp [outputs, Node.output?, hdirection]
        have hconsumed : consumedPads (.stream s :: rest) = consumedPads rest := by
          simp [consumedPads, Node.consumedPads, hdirection]
        have hmapped : mappedPads (.stream s :: rest) = mappedPads rest := by
          simp [mappedPads, houtputs]
        rw [hconsumed, hmapped]
        exact ih
    | operation o => exact ih
    | value v => exact ih

/-- In graphs with the same parts the same pads are taken in, each as often, wherever the nodes
stand that take them in. -/
theorem SameParts.consumedPads_perm (hparts : g.SameParts h) :
    g.consumedPads.Perm h.consumedPads := by
  have hstages : (g.stages.flatMap Stage.inputPads).Perm (h.stages.flatMap Stage.inputPads) :=
    hparts.stages.flatMap_perm fun _ _ hst => hst.inputPads
  calc g.consumedPads
    _ ~ g.stages.flatMap Stage.inputPads ++ g.mappedPads := g.consumedPads_perm
    _ ~ h.stages.flatMap Stage.inputPads ++ h.mappedPads :=
      hstages.append hparts.mappedPads_perm
    _ ~ h.consumedPads := h.consumedPads_perm.symm

end Graph

end FilterGraph
