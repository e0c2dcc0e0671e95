import FilterGraph.Proofs.StrictOutcome

/-!
# What is written of a graph

Of the options of an operation the texts of the values are written, of a stage its pads and its
operations, and of a graph its stages and of its streams the paths and the labels. Everything else
may be left out: what is left is written like the graph (`Graph.command_written`). Options that
cannot be written have nothing to leave, and the first of them is the failure of all.
-/

set_option autoImplicit false

namespace FilterGraph

/-- Keyed options with texts as their values. -/
def Payload.ofTexts (texts : Entries String) : Payload :=
  .keyed (texts.map fun e => (e.1, .text e.2))

/-- Options with nothing in them but what is written. -/
def Options.written : Options → Except Failure Payload
  | .payload (.keyed values) => .ok (.ofTexts (values.map fun e => (e.1, e.2.plain)))
  | .payload (.raw text) => .ok (.raw text)
  | .loose value => .error (.unsupportedPayload value.kind)

/-- An operation with nothing in it but what is written. -/
def Operation.written (o : Operation) : Except Failure Operation :=
  o.options.written.map fun payload => { name := o.name, options := .payload payload }

/-- A stage with nothing in it but what is written. -/
def Stage.written (s : Stage) : Except Failure Stage :=
  (s.operations.mapM Operation.written).map fun operations =>
    { inputPads := s.inputPads, outputPads := s.outputPads, operations }

/-- Options have the text of what is written of them. -/
theorem Options.render_written (o : Options) : o.written.map Payload.render = o.render := by
  cases o with
  | payload payload =>
    cases payload with
    | keyed values =>
      have htexts : (Payload.ofTexts (values.map fun e => (e.1, e.2.plain))).render =
          (Payload.keyed values).render := by
        unfold Payload.ofTexts Payload.render
        dsimp only
        rw [List.map_map, List.map_map]
        rfl
      exact congrArg Except.ok htexts
    | raw text => rfl
  | loose value => rfl

/-- An operation has the text of what is written of it. -/
theorem Operation.render_written (o : Operation) : (o.written >>= Operation.render) = o.render := by
  unfold written Operation.render
  rw [← o.options.render_written]
  cases o.options.written <;> rfl

/-- What is written of an operation always has a text. -/
theorem Operation.exists_render_of_written {o p : Operation} (h : o.written = .ok p) :
    ∃ text, p.render = .ok text := by
  obtain ⟨payload, -, rfl⟩ := Outcome.map_eq_ok_iff.1 h
  exact ⟨_, rfl⟩

/-- A stage has the text of what is written of it. -/
theorem Stage.render_written (s : Stage) : (s.written >>= Stage.render) = s.render := by
  have hchain : (s.operations.mapM Operation.written >>= fun chain => chain.mapM Operation.render) =
      s.operations.mapM Operation.render :=
    Outcome.mapM_bind_mapM (List.forall₂_same.2 fun o _ => o.render_written)
      fun _ _ _ ho => Operation.exists_render_of_written ho
  unfold written Stage.render Operation.renderChain
  rw [← hchain]
  cases s.operations.mapM Operation.written <;> rfl

/-- What is written of a stage always has a text. -/
theorem Stage.exists_render_of_written {s t : Stage} (h : s.written = .ok t) :
    ∃ text, t.render = .ok text := by
  obtain ⟨operations, hoperations, rfl⟩ := Outcome.map_eq_ok_iff.1 h
  rw [Stage.exists_render_iff]
  intro p hp
  obtain ⟨o, -, ho⟩ := Outcome.exists_of_mem_mapM hoperations hp
  exact p.exists_render_iff.1 (Operation.exists_render_of_written ho)

namespace Graph

variable (g : Graph) (stages : List Stage)

/-- The graph with the given stages, and with nothing of its streams but what is written. -/
def withStages : Graph :=
  (g.inputs.map fun s => Stream.reading s.path).map .stream ++ stages.map .stage ++
    (g.outputs.map fun s => Stream.writing s.path "" (some s.pads)).map .stream

/-- The inputs are the given ones, with their paths only. -/
theorem inputs_withStages :
    (g.withStages stages).inputs = g.inputs.map fun s => .reading s.path := by
  simp [withStages, inputs, List.filterMap_append, List.filterMap_map, Function.comp_def,
    Node.input?, Stream.reading, Stream.writing]

/-- The outputs are the given ones, with their paths and their pads only. -/
theorem outputs_withStages :
    (g.withStages stages).outputs = g.outputs.map fun s => .writing s.path "" (some s.pads) := by
  simp [withStages, outputs, List.filterMap_append, List.filterMap_map, Function.comp_def,
    Node.output?, Stream.reading, Stream.writing]

/-- The stages are the given ones. -/
theorem stages_withStages : (g.withStages stages).stages = stages := by
  simp [withStages, Graph.stages, List.filterMap_append, List.filterMap_map, Function.comp_def,
    Node.stage?]

/-- Around the filter graph the command is that of the graph. -/
theorem commandAround_withStages : (g.withStages stages).commandAround = g.commandAround := by
  have hpads : (g.withStages stages).mappedPads = g.mappedPads := by
    unfold mappedPads
    rw [outputs_withStages, List.flatMap_map]
    rfl
  funext filters
  unfold commandAround inputFlags mapFlags outputPaths
  rw [inputs_withStages, hpads, outputs_withStages, List.map_map, List.map_map]
  rfl

/-- A graph has the command of the graph with what is written of it. -/
theorem command_written :
    (g.stages.mapM Stage.written >>= fun stages => (g.withStages stages).command) = g.command := by
  have htexts : (g.stages.mapM Stage.written >>= fun stages => stages.mapM Stage.render) =
      g.stages.mapM Stage.render :=
    Outcome.mapM_bind_mapM (List.forall₂_same.2 fun s _ => s.render_written)
      fun _ _ _ hs => Stage.exists_render_of_written hs
  rw [command_lenient]
  unfold filterText stageTexts
  rw [← htexts]
  cases g.stages.mapM Stage.written with
  | error failure => rfl
  | ok stages =>
    show (g.withStages stages).command = _
    rw [command_lenient, commandAround_withStages]
    unfold filterText stageTexts
    rw [stages_withStages]
    rfl

end Graph

end FilterGraph
