import FilterGraph.Proofs.Interleaving
import FilterGraph.Proofs.Paired
import FilterGraph.Proofs.Written

/-!
# Nodes that resemble each other

Nodes resemble each other if they are the same but for the entries of keyed options and for loose
values. Validation looks at neither, so graphs whose nodes resemble each other one by one validate
alike (`Graph.Resembles.validate`). They compile alike if what is written of their options agrees as
well (`Graph.Resembles.command`).
-/

set_option autoImplicit false

namespace FilterGraph

/-! ### Nodes that resemble each other -/

/-- The options are of one sort, and the same if they are raw text. -/
inductive Options.Resembles : Options → Options → Prop where
  | keyed (xs ys : Entries Scalar) : Resembles (.payload (.keyed xs)) (.payload (.keyed ys))
  | raw (text : String) : Resembles (.payload (.raw text)) (.payload (.raw text))
  | loose (v w : Scalar) : Resembles (.loose v) (.loose w)

/-- Options resemble themselves. -/
theorem Options.Resembles.refl (o : Options) : o.Resembles o := by
  cases o with
  | payload payload =>
    cases payload with
    | keyed values => exact .keyed values values
    | raw text => exact .raw text
  | loose value => exact .loose value value

/-- The operations have the same name, and options that resemble each other. -/
structure Operation.Resembles (o p : Operation) : Prop where
  name : o.name = p.name
  options : o.options.Resembles p.options

/-- The stages have the same name and the same pads, and operations that resemble each other one by
one. -/
structure Stage.Resembles (s t : Stage) : Prop where
  name : s.name = t.name
  inputPads : s.inputPads = t.inputPads
  outputPads : s.outputPads = t.outputPads
  operations : List.Forall₂ Operation.Resembles s.operations t.operations

/-- The nodes are the same but for the entries of keyed options and for loose values. -/
inductive Node.Resembles : Node → Node → Prop where
  | stream (s : Stream) : Resembles (.stream s) (.stream s)
  | stage {s t : Stage} (h : s.Resembles t) : Resembles (.stage s) (.stage t)
  | operation (o p : Operation) : Resembles (.operation o) (.operation p)
  | value (v w : Scalar) : Resembles (.value v) (.value w)

/-- A node resembles itself. -/
theorem Node.Resembles.refl (n : Node) : n.Resembles n := by
  cases n with
  | stream s => exact .stream s
  | stage s =>
    exact .stage ⟨rfl, rfl, rfl, List.forall₂_same.2 fun o _ => ⟨rfl, .refl o.options⟩⟩
  | operation o => exact .operation o o
  | value v => exact .value v v

/-! ### What is written of options -/

/-- What is written of options: each key with the plain text of its value, in order, or else what
kind of options they are. -/
def Options.inscription : Options → Kind × List (String × String)
  | .payload (.keyed values) => (.keyed, values.map fun e => (e.1, e.2.plain))
  | options => (options.kind, [])

/-- What is written of the options of each operation of a node. -/
def Node.inscriptions : Node → List (Kind × List (String × String))
  | .stage s => s.operations.map fun o => o.options.inscription
  | _ => []

/-- All options in the node are raw text. -/
def Node.OnlyRaw : Node → Prop
  | .stage s => ∀ o ∈ s.operations, ∃ text, o.options = .payload (.raw text)
  | _ => True

/-- Raw text resembles the same raw text only. -/
theorem Options.Resembles.eq_of_raw {text : String} {p : Options}
    (h : Options.Resembles (.payload (.raw text)) p) : p = .payload (.raw text) := by
  cases h with
  | raw text => rfl

/-- Nodes without operations, and nodes with raw text as their options, have the same written of
their options whenever they resemble each other. -/
theorem Node.Resembles.inscriptions_eq {n m : Node} (h : n.Resembles m) (hraw : n.OnlyRaw) :
    n.inscriptions = m.inscriptions := by
  cases h with
  | stream s => rfl
  | @stage s t h =>
    refine Paired.map_eq_iff.2 (List.forall₂_iff_zip.2 ⟨h.operations.length_eq, ?_⟩)
    intro o p hmem
    obtain ⟨text, htext⟩ := hraw o (List.of_mem_zip hmem).1
    have hoptions : o.options.Resembles p.options := (List.forall₂_zip h.operations hmem).options
    rw [htext] at hoptions ⊢
    rw [hoptions.eq_of_raw]
  | operation o p => rfl
  | value v w => rfl

/-- Options that resemble each other are written alike if what is written of them agrees. -/
theorem Options.Resembles.written_eq {o p : Options} (h : o.Resembles p)
    (hinscription : o.inscription = p.inscription) : o.written = p.written := by
  cases h with
  | keyed xs ys =>
    have htexts : (xs.map fun e => (e.1, e.2.plain)) = ys.map fun e => (e.1, e.2.plain) :=
      congrArg Prod.snd hinscription
    exact congrArg (fun texts => Except.ok (Payload.ofTexts texts)) htexts
  | raw text => rfl
  | loose v w =>
    have hkind : v.kind = w.kind := congrArg Prod.fst hinscription
    exact congrArg (fun kind => Except.error (Failure.unsupportedPayload kind)) hkind

/-- Operations that resemble each other are written alike if what is written of their options
agrees. -/
theorem Operation.Resembles.written_eq {o p : Operation} (h : o.Resembles p)
    (hinscription : o.options.inscription = p.options.inscription) : o.written = p.written := by
  unfold written
  rw [h.options.written_eq hinscription, h.name]

/-- Stages that resemble each other are written alike if what is written of their options agrees,
operation by operation. -/
theorem Stage.Resembles.written_eq {s t : Stage} (h : s.Resembles t)
    (hinscriptions : (Node.stage s).inscriptions = (Node.stage t).inscriptions) :
    s.written = t.written := by
  have hoperations : s.operations.mapM Operation.written = t.operations.mapM Operation.written :=
    Paired.mapM_eq (List.Forall₂.mp (fun o p hop hinscription => hop.written_eq hinscription)
      h.operations (Paired.map_eq_iff.1 hinscriptions))
  unfold written
  rw [hoperations, h.inputPads, h.outputPads]

/-- Stages that are written alike have the same text. -/
theorem Stage.Resembles.render_eq {s t : Stage} (h : s.Resembles t)
    (hinscriptions : (Node.stage s).inscriptions = (Node.stage t).inscriptions) :
    s.render = t.render := by
  rw [← s.render_written, h.written_eq hinscriptions, t.render_written]

/-! ### What is found in nodes that resemble each other -/

/-- In operations that resemble each other the same is found. -/
theorem Operation.Resembles.findings_eq {o p : Operation} (h : o.Resembles p) (stage : String) :
    o.findings stage = p.findings stage := by
  obtain ⟨name, options⟩ := o
  obtain ⟨other, others⟩ := p
  obtain ⟨hname, hoptions⟩ := h
  dsimp only at hname hoptions
  subst hname
  -- only an empty raw text is looked for in the options
  cases hoptions with
  | keyed xs ys => rfl
  | raw text => rfl
  | loose v w => rfl

/-- In stages that resemble each other the same is found. -/
theorem Stage.Resembles.findings_eq {s t : Stage} (h : s.Resembles t) :
    s.findings = t.findings := by
  have hlabel : s.label = t.label := by
    unfold Stage.label
    rw [h.name]
  have hempty : s.operations.isEmpty = t.operations.isEmpty := Paired.isEmpty_eq h.operations
  have hfound : s.operations.flatMap (Operation.findings t.label) =
      t.operations.flatMap (Operation.findings t.label) :=
    Paired.flatMap_eq (h.operations.imp fun o p hop => hop.findings_eq t.label)
  unfold Stage.findings
  rw [h.inputPads, h.outputPads, hempty, hlabel, hfound]

namespace Node.Resembles

variable {n m : Node}

/-- Nodes that resemble each other are the same input, if they are inputs. -/
theorem input?_eq (h : n.Resembles m) : n.input? = m.input? := by
  cases h <;> rfl

/-- Nodes that resemble each other are the same output, if they are outputs. -/
theorem output?_eq (h : n.Resembles m) : n.output? = m.output? := by
  cases h <;> rfl

/-- Nodes that resemble each other take in the same pads. -/
theorem consumedPads_eq (h : n.Resembles m) : n.consumedPads = m.consumedPads := by
  cases h with
  | stream s => rfl
  | stage h => exact h.inputPads
  | operation o p => rfl
  | value v w => rfl

/-- Nodes that resemble each other are stages that do so, if they are stages. -/
theorem stage? (h : n.Resembles m) : Option.Rel Stage.Resembles n.stage? m.stage? := by
  cases h with
  | stream s => exact .none
  | stage h => exact .some h
  | operation o p => exact .none
  | value v w => exact .none

/-- Nodes that resemble each other have the same text, if they are stages and what is written of
their options agrees. -/
theorem render_eq (h : n.Resembles m) (hinscriptions : n.inscriptions = m.inscriptions) :
    n.stage?.map Stage.render = m.stage?.map Stage.render := by
  cases h with
  | stream s => rfl
  | stage h => exact congrArg some (h.render_eq hinscriptions)
  | operation o p => rfl
  | value v w => rfl

end Node.Resembles

/-! ### Graphs whose nodes resemble each other -/

/-- The nodes of the graphs resemble each other one by one. -/
def Graph.Resembles (g h : Graph) : Prop := List.Forall₂ Node.Resembles g h

namespace Graph

variable {g h : Graph}

namespace Resembles

/-- Graphs that resemble each other have the same inputs. -/
theorem inputs_eq (hgh : g.Resembles h) : g.inputs = h.inputs :=
  Paired.filterMap_eq (hgh.imp fun _ _ hnm => hnm.input?_eq)

/-- Graphs that resemble each other have the same outputs. -/
theorem outputs_eq (hgh : g.Resembles h) : g.outputs = h.outputs :=
  Paired.filterMap_eq (hgh.imp fun _ _ hnm => hnm.output?_eq)

/-- Graphs that resemble each other take in the same pads, in the same order. -/
theorem consumedPads_eq (hgh : g.Resembles h) : g.consumedPads = h.consumedPads :=
  Paired.flatMap_eq (hgh.imp fun _ _ hnm => hnm.consumedPads_eq)

/-- Graphs that resemble each other have stages that do so, one by one. -/
theorem stages (hgh : g.Resembles h) : List.Forall₂ Stage.Resembles g.stages h.stages :=
  List.rel_filterMap (fun _ _ hnm => hnm.stage?) hgh

/-- Graphs that resemble each other put out the same pads, in the same order. -/
theorem producedPads_eq (hgh : g.Resembles h) : g.producedPads = h.producedPads :=
  Paired.flatMap_eq (hgh.stages.imp fun _ _ hst => hst.outputPads)

/-- Graphs that resemble each other use the same labels in the same way. -/
theorem uses_eq (hgh : g.Resembles h) : g.uses = h.uses := by
  unfold uses
  rw [hgh.producedPads_eq, hgh.consumedPads_eq, hgh.inputs_eq]

/-- In the streams of graphs that resemble each other the same is found. -/
theorem streamFindings_eq (hgh : g.Resembles h) : g.streamFindings = h.streamFindings := by
  have hempty : g.stages.isEmpty = h.stages.isEmpty := Paired.isEmpty_eq hgh.stages
  unfold streamFindings
  rw [hgh.inputs_eq, mappedPads_congr hgh.outputs_eq, hempty, hgh.outputs_eq]

/-- Graphs that resemble each other validate alike. -/
theorem validate (hgh : g.Resembles h) : g.validate = h.validate := by
  have hstages : g.stages.flatMap Stage.findings = h.stages.flatMap Stage.findings :=
    Paired.flatMap_eq (hgh.stages.imp fun _ _ hst => hst.findings_eq)
  unfold Graph.validate findings
  rw [hgh.uses_eq, hgh.inputs_eq, hgh.outputs_eq, hstages, hgh.streamFindings_eq]

/-- Graphs that resemble each other are let through or refused alike. -/
theorem screen (hgh : g.Resembles h) (strict : Bool) : g.screen strict = h.screen strict := by
  unfold Graph.screen
  rw [hgh.validate]

/-- If what is written of the options agrees as well, the filter graphs have the same text. -/
theorem filterText (hgh : g.Resembles h)
    (hinscriptions : g.map Node.inscriptions = h.map Node.inscriptions) :
    g.filterText = h.filterText := by
  have hnodes :
      List.Forall₂ (fun n m => n.stage?.map Stage.render = m.stage?.map Stage.render) g h :=
    List.Forall₂.mp (fun n m hnm hinscription => hnm.render_eq hinscription) hgh
      (Paired.map_eq_iff.1 hinscriptions)
  have htexts : g.stages.map Stage.render = h.stages.map Stage.render := by
    unfold Graph.stages
    rw [List.map_filterMap, List.map_filterMap]
    exact Paired.filterMap_eq hnodes
  unfold Graph.filterText stageTexts
  rw [Paired.mapM_eq (Paired.map_eq_iff.1 htexts)]

/-- If what is written of the options agrees as well, the graphs have the same command. -/
theorem command (hgh : g.Resembles h)
    (hinscriptions : g.map Node.inscriptions = h.map Node.inscriptions) (strict : Bool) :
    g.command strict = h.command strict := by
  unfold Graph.command
  rw [hgh.screen, hgh.filterText hinscriptions, commandAround_congr hgh.inputs_eq hgh.outputs_eq]

/-- If what is written of the options agrees as well, the graphs have the same arguments. -/
theorem arguments (hgh : g.Resembles h)
    (hinscriptions : g.map Node.inscriptions = h.map Node.inscriptions) (strict : Bool) :
    g.arguments strict = h.arguments strict := by
  unfold Graph.arguments
  rw [hgh.screen, hgh.filterText hinscriptions, argumentsAround_congr hgh.inputs_eq hgh.outputs_eq]

/-- A node may be replaced by one that resembles it. -/
theorem replaced {n m : Node} (hnm : n.Resembles m) (before after : Graph) :
    Graph.Resembles (before ++ n :: after) (before ++ m :: after) := by
  have hsame : ∀ g : Graph, g.Resembles g := fun g => List.forall₂_same.2 fun n _ => .refl n
  exact List.rel_append (hsame before) (.cons hnm (hsame after))

end Resembles

end Graph

end FilterGraph
