import FilterGraph.Proofs.Paired
import FilterGraph.Proofs.Written
import FilterGraph.Store.Reading
import FilterGraph.Store.Validation

/-!
# Nodes that are seen and the nodes that they stand for

A session compiles what is seen of its values, and asks nothing of a field before it is needed. If
the fields hold what they are meant to hold, a node can be read off. Then what is seen shows the
fields of that node (`View.showsNode_of_node?`), and the graph that it shows is written like what is
seen (`View.toGraph_eq`, `View.lenientCommand_eq`).
-/

set_option autoImplicit false

namespace FilterGraph

namespace Store.View

/-! ### Scalars and their texts -/

mutual
/-- What is seen of a scalar is shown as the scalar is. -/
theorem shown_of_scalar? : ∀ (v : View) {x : Scalar}, v.scalar? = some x → v.shown = x.shown
  | .atom a, x, h => by
    cases a with
    | direction d => exact nomatch h
    | _ => exact Option.some.inj h ▸ rfl
  | .list items, x, h => by
    obtain ⟨xs, hxs, rfl⟩ := Option.map_eq_some_iff.1 h
    rw [shown, shownItems_of_scalars? items hxs, Scalar.shown]
  | .dictionary entries, x, h => by
    obtain ⟨xs, hxs, rfl⟩ := Option.map_eq_some_iff.1 h
    rw [shown, shownEntries_of_scalarEntries? entries hxs, Scalar.shown]
  | .record _ _, _, h => nomatch h

/-- The items of a list of scalars are shown as the scalars are. -/
theorem shownItems_of_scalars? : ∀ (items : List View) {xs : List Scalar},
    scalars? items = some xs → shownItems items = Scalar.shownItems xs
  | [], xs, h => by
    obtain rfl := Option.some.inj h
    rw [shownItems, Scalar.shownItems]
  | item :: rest, xs, h => by
    simp only [scalars?, Option.bind_eq_bind, Option.bind_eq_some_iff, Option.pure_def,
      Option.some.injEq] at h
    obtain ⟨x, hx, others, hothers, rfl⟩ := h
    rw [shownItems, shown_of_scalar? item hx, shownItems_of_scalars? rest hothers,
      Scalar.shownItems]

/-- The entries of a dictionary of scalars are shown as the scalars are. -/
theorem shownEntries_of_scalarEntries? : ∀ (entries : List (String × View))
    {xs : List (String × Scalar)}, scalarEntries? entries = some xs →
    shownEntries entries = Scalar.shownEntries xs
  | [], xs, h => by
    obtain rfl := Option.some.inj h
    rw [shownEntries, Scalar.shownEntries]
  | (key, item) :: rest, xs, h => by
    simp only [scalarEntries?, Option.bind_eq_bind, Option.bind_eq_some_iff, Option.pure_def,
      Option.some.injEq] at h
    obtain ⟨x, hx, others, hothers, rfl⟩ := h
    rw [shownEntries, shown_of_scalar? item hx, shownEntries_of_scalarEntries? rest hothers,
      Scalar.shownEntries]
end

/-- What is seen of a scalar has the plain text of the scalar. -/
theorem plain_of_scalar? {v : View} {x : Scalar} (h : v.scalar? = some x) : v.plain = x.plain := by
  have hshown := shown_of_scalar? v h
  cases v with
  | atom a =>
    cases a with
    | direction d => exact nomatch h
    | _ => exact Option.some.inj h ▸ rfl
  | record shape fields => exact nomatch h
  | _ =>
    obtain ⟨xs, -, rfl⟩ := Option.map_eq_some_iff.1 h
    exact hshown

/-- What is seen of a scalar has the kind of the scalar. -/
theorem kind_of_scalar? {v : View} {x : Scalar} (h : v.scalar? = some x) : v.kind = x.kind := by
  cases v with
  | atom a =>
    cases a with
    | direction d => exact nomatch h
    | _ => exact Option.some.inj h ▸ rfl
  | record shape fields => exact nomatch h
  | _ =>
    obtain ⟨xs, -, rfl⟩ := Option.map_eq_some_iff.1 h
    rfl

/-- The entries of a dictionary of scalars have the keys and the plain texts of the scalars. -/
theorem plain_of_scalarEntries? : ∀ (entries : List (String × View)) {xs : List (String × Scalar)},
    scalarEntries? entries = some xs →
    (entries.map fun e => (e.1, e.2.plain)) = xs.map fun e => (e.1, e.2.plain)
  | [], xs, h => by
    obtain rfl := Option.some.inj h
    rfl
  | (key, item) :: rest, xs, h => by
    simp only [scalarEntries?, Option.bind_eq_bind, Option.bind_eq_some_iff, Option.pure_def,
      Option.some.injEq] at h
    obtain ⟨x, hx, others, hothers, rfl⟩ := h
    rw [List.map_cons, List.map_cons, plain_of_scalar? hx, plain_of_scalarEntries? rest hothers]

/-! ### Fields -/

variable {v u : View} {name : String}

/-- What is got of a field that is there is the value of the field. -/
theorem get_of_field (h : v.field name = .ok u) : v.get name = u := by
  unfold field at h
  unfold get
  split at h
  · rename_i value hvalue
    rw [hvalue, Option.getD_some]
    exact Except.ok.inj h
  · exact nomatch h

/-- If a value is read off a field, the field is there. -/
theorem field_of_readField {α : Type} {read : View → Option α} (shape : Shape)
    {fields : List (String × View)} {value : α} (h : readField name read fields = some value) :
    ∃ u, (record shape fields).field name = .ok u ∧ read u = some value := by
  obtain ⟨u, hu, hvalue⟩ := readField_eq_some h
  have hfield : (record shape fields).field? name = some u := hu
  refine ⟨u, ?_, hvalue⟩
  unfold field
  rw [hfield]

/-- A row of texts. -/
def ofTexts (texts : List String) : View := .list (texts.map fun s => .atom (.text s))

/-- Texts are read off a row of these texts only. -/
theorem eq_ofTexts {texts : List String} (h : v.items? text? = some texts) : v = ofTexts texts := by
  obtain ⟨items, rfl, hitems⟩ := items?_eq_some h
  have heq : items = texts.map fun s => .atom (.text s) := by
    clear h
    induction hitems with
    | nil => rfl
    | cons hitem _ ih => rw [List.map_cons, ← text?_eq_some hitem, ← ih]
  rw [heq]
  rfl

/-! ### What is seen of a node -/

/-- What is seen has the fields of the operation. -/
structure ShowsOperation (v : View) (o : Operation) : Prop where
  name : v.field "name" = .ok (.atom (.text o.name))
  options : ∃ options, v.field "options" = .ok options ∧ options.options? = some o.options

/-- What is seen is a stage with the fields of the given one. -/
structure ShowsStage (v : View) (s : Stage) : Prop where
  shape : ∃ fields, v = .record .stage fields
  name : v.field "name" = .ok (.atom (.text s.name))
  inputPads : v.field "input_pads" = .ok (ofTexts s.inputPads)
  outputPads : v.field "output_pads" = .ok (ofTexts s.outputPads)
  operations : ∃ operations, v.field "operations" = .ok (.list operations) ∧
    List.Forall₂ ShowsOperation operations s.operations

/-- What is seen is a stream with the fields of the given one. -/
structure ShowsStream (v : View) (s : Stream) : Prop where
  shape : ∃ fields, v = .record .stream fields
  path : v.field "path" = .ok (.atom (.text s.path))
  direction : ∃ direction, v.field "direction" = .ok direction ∧
    direction.characters? = some s.direction.text
  mappedPads : v.field "mapped_pads" = .ok (s.mappedPads.elim (.atom .none) ofTexts)

/-- What is seen is the node as far as graphs are concerned. -/
inductive ShowsNode : View → Node → Prop where
  | stream {v : View} {s : Stream} (h : v.ShowsStream s) : ShowsNode v (.stream s)
  | stage {v : View} {s : Stage} (h : v.ShowsStage s) : ShowsNode v (.stage s)
  | operation {v : View} (o : Operation) (h : v.isStage = false) (h' : ∀ d, v.isStream d = false) :
      ShowsNode v (.operation o)
  | value {v : View} (x : Scalar) (h : v.isStage = false) (h' : ∀ d, v.isStream d = false) :
      ShowsNode v (.value x)

/-- What an operation is read off shows the operation. -/
theorem showsOperation_of_operation? {o : Operation} (h : v.operation? = some o) :
    v.ShowsOperation o := by
  obtain ⟨fields, rfl, hname, hoptions⟩ := operation?_eq_some h
  obtain ⟨name, hname, hread⟩ := field_of_readField .operation hname
  obtain rfl := text?_eq_some hread
  exact ⟨hname, field_of_readField .operation hoptions⟩

/-- What a stage is read off shows the stage. -/
theorem showsStage_of_stage? {s : Stage} (h : v.stage? = some s) : v.ShowsStage s := by
  obtain ⟨fields, rfl, hname, hinput, houtput, hoperations⟩ := stage?_eq_some h
  obtain ⟨name, hname, hread⟩ := field_of_readField .stage hname
  obtain rfl := text?_eq_some hread
  obtain ⟨input, hinput, hread⟩ := field_of_readField .stage hinput
  obtain rfl := eq_ofTexts hread
  obtain ⟨output, houtput, hread⟩ := field_of_readField .stage houtput
  obtain rfl := eq_ofTexts hread
  obtain ⟨chain, hchain, hread⟩ := field_of_readField .stage hoperations
  obtain ⟨operations, rfl, hitems⟩ := items?_eq_some hread
  exact ⟨⟨fields, rfl⟩, hname, hinput, houtput, operations, hchain,
    hitems.imp fun _ _ hoperation => showsOperation_of_operation? hoperation⟩

/-- What a stream is read off shows the stream, where a direction may also be given as its text. -/
theorem showsStream_of_stream? {s : Stream} (h : v.stream? = some s) : v.ShowsStream s := by
  obtain ⟨fields, rfl, hpath, -, hdirection, hmapped⟩ := stream?_eq_some h
  obtain ⟨path, hpath, hread⟩ := field_of_readField .stream hpath
  obtain rfl := text?_eq_some hread
  obtain ⟨direction, hdirection, hread⟩ := field_of_readField .stream hdirection
  obtain ⟨text, htext, hdirected⟩ := Option.map_eq_some_iff.1 hread
  obtain ⟨pads, hpads, hread⟩ := field_of_readField .stream hmapped
  refine ⟨⟨fields, rfl⟩, hpath, ⟨direction, hdirection, ?_⟩, ?_⟩
  · rw [← hdirected, Direction.text_ofText, htext]
  · rw [hpads]
    unfold mappedPads? at hread
    split at hread
    · rw [← Option.some.inj hread, Option.elim_none]
    · obtain ⟨texts, htexts, hsome⟩ := Option.map_eq_some_iff.1 hread
      rw [← hsome, Option.elim_some, eq_ofTexts htexts]

/-- What a node is read off shows the node. -/
theorem showsNode_of_node? {n : Node} (h : v.node? = some n) : v.ShowsNode n := by
  have hvalue : v.isStage = false → (∀ d, v.isStream d = false) →
      v.scalar?.map Node.value = some n → v.ShowsNode n := by
    intro hstage hstream h
    obtain ⟨x, -, rfl⟩ := Option.map_eq_some_iff.1 h
    exact .value x hstage hstream
  cases v with
  | record shape fields =>
    cases shape with
    | stream =>
      obtain ⟨s, hs, rfl⟩ := Option.map_eq_some_iff.1 h
      exact .stream (showsStream_of_stream? hs)
    | stage =>
      obtain ⟨s, hs, rfl⟩ := Option.map_eq_some_iff.1 h
      exact .stage (showsStage_of_stage? hs)
    | operation =>
      obtain ⟨o, -, rfl⟩ := Option.map_eq_some_iff.1 h
      exact .operation o rfl fun _ => rfl
    | _ => exact nomatch h
  | _ => exact hvalue rfl (fun _ => rfl) h

/-! ### Writing -/

/-- What options are read off is written like the options, or fails like them. -/
theorem toPayload_eq {o : Options} (h : v.options? = some o) : v.toPayload = o.written := by
  have hloose : v.toPayload = .error (.unsupportedPayload v.kind) →
      v.scalar?.map Options.loose = some o → v.toPayload = o.written := by
    intro hpayload h
    obtain ⟨x, hx, rfl⟩ := Option.map_eq_some_iff.1 h
    rw [hpayload, kind_of_scalar? hx]
    rfl
  -- only two shapes of records are payloads, and what can be read and is none is a loose value
  cases v with
  | record shape fields =>
    cases shape with
    | keyed =>
      obtain ⟨values, hvalues, rfl⟩ := Option.map_eq_some_iff.1 h
      obtain ⟨u, hu, hread⟩ := field_of_readField .keyed hvalues
      unfold values? at hread
      split at hread
      · rename_i entries
        unfold toPayload Options.written Payload.ofTexts
        dsimp only
        rw [get_of_field hu, ← plain_of_scalarEntries? entries hread, List.map_map]
        rfl
      · exact nomatch hread
    | raw =>
      obtain ⟨text, htext, rfl⟩ := Option.map_eq_some_iff.1 h
      obtain ⟨u, hu, hread⟩ := field_of_readField .raw htext
      obtain rfl := text?_eq_some hread
      unfold toPayload
      dsimp only
      rw [get_of_field hu]
      rfl
    | _ => exact nomatch h
  | _ => exact hloose rfl h

/-- What is seen of an operation is written like the operation. -/
theorem ShowsOperation.toOperation_eq {o : Operation} (h : v.ShowsOperation o) :
    v.toOperation = o.written := by
  obtain ⟨options, hfield, hread⟩ := h.options
  unfold toOperation Operation.written
  rw [h.name, hfield, ← toPayload_eq hread]
  show (options.toPayload >>= fun payload => _) = _
  cases options.toPayload <;> rfl

/-- A row of texts is a row of pads. -/
theorem toPads_ofTexts (texts : List String) : (ofTexts texts).toPads = .ok texts := by
  show Except.ok ((texts.map fun s => View.atom (.text s)).map plain) = .ok texts
  rw [List.map_map]
  exact congrArg Except.ok (List.map_id texts)

/-- What is seen of a stage is written like the stage. -/
theorem ShowsStage.toStage_eq {s : Stage} (h : v.ShowsStage s) : v.toStage = s.written := by
  obtain ⟨operations, hoperations, hshows⟩ := h.operations
  have hchain : operations.mapM toOperation = s.operations.mapM Operation.written :=
    Paired.mapM_eq (hshows.imp fun _ _ ho => ho.toOperation_eq)
  unfold toStage Stage.written
  rw [h.inputPads, hoperations, h.outputPads, ← hchain]
  show ((ofTexts s.inputPads).toPads >>= fun inputPads =>
    operations.mapM toOperation >>= fun chain => (ofTexts s.outputPads).toPads >>= fun outputPads =>
      pure ({ inputPads, outputPads, operations := chain } : Stage)) = _
  rw [toPads_ofTexts, toPads_ofTexts]
  cases operations.mapM toOperation <;> rfl

/-! ### Graphs -/

variable {views : List View} {g : Graph}

/-- What shows a stage is taken for a stage. -/
theorem ShowsStage.isStage_eq {s : Stage} (h : v.ShowsStage s) : v.isStage = true := by
  obtain ⟨fields, rfl⟩ := h.shape
  rfl

/-- What shows a stage is taken for no stream. -/
theorem ShowsStage.isStream_eq {s : Stage} (h : v.ShowsStage s) (d : Direction) :
    v.isStream d = false := by
  obtain ⟨fields, rfl⟩ := h.shape
  rfl

/-- What shows a stream is taken for no stage. -/
theorem ShowsStream.isStage_eq {s : Stream} (h : v.ShowsStream s) : v.isStage = false := by
  obtain ⟨fields, rfl⟩ := h.shape
  rfl

/-- What shows a stream is taken for a stream of its direction and of no other one. -/
theorem ShowsStream.isStream_eq {s : Stream} (h : v.ShowsStream s) (d : Direction) :
    v.isStream d = decide (s.direction = d) := by
  obtain ⟨fields, rfl⟩ := h.shape
  obtain ⟨direction, hdirection, hcharacters⟩ := h.direction
  have htext : s.direction.text = d.text ↔ s.direction = d := by
    refine ⟨fun heq => ?_, congrArg Direction.text⟩
    rw [← Direction.ofText_text s.direction, heq, Direction.ofText_text]
  unfold isStream
  dsimp only
  rw [get_of_field hdirection, hcharacters, Bool.eq_iff_iff, beq_iff_eq, Option.some.injEq, htext,
    decide_eq_true_iff]

/-- What is taken for the stages of a graph shows its stages, in order. -/
theorem forall₂_stages (h : List.Forall₂ ShowsNode views g) :
    List.Forall₂ ShowsStage (views.filter isStage) g.stages := by
  refine Paired.filter_filterMap (fun v n hvn => ?_) h
  cases hvn with
  | stream hs => exact .inr ⟨hs.isStage_eq, rfl⟩
  | @stage s hs => exact .inl ⟨hs.isStage_eq, s, rfl, hs⟩
  | operation o hstage _ => exact .inr ⟨hstage, rfl⟩
  | value x hstage _ => exact .inr ⟨hstage, rfl⟩

/-- The streams that are kept by a direction are the ones that are chosen by it. -/
theorem forall₂_streams (h : List.Forall₂ ShowsNode views g) {d : Direction}
    {select : Node → Option Stream}
    (hstream : ∀ s, select (.stream s) = if s.direction = d then some s else none)
    (hother : ∀ n, (∀ s, n ≠ .stream s) → select n = none) :
    List.Forall₂ ShowsStream (views.filter (isStream d)) (g.filterMap select) := by
  refine Paired.filter_filterMap (fun v n hvn => ?_) h
  cases hvn with
  | @stream s hs =>
    rw [hs.isStream_eq, hstream]
    by_cases hd : s.direction = d
    · exact .inl ⟨decide_eq_true hd, s, if_pos hd, hs⟩
    · exact .inr ⟨decide_eq_false hd, if_neg hd⟩
  | stage hs => exact .inr ⟨hs.isStream_eq d, hother _ fun _ => Node.noConfusion⟩
  | operation o _ hnone => exact .inr ⟨hnone d, hother _ fun _ => Node.noConfusion⟩
  | value x _ hnone => exact .inr ⟨hnone d, hother _ fun _ => Node.noConfusion⟩

/-- What is taken for the inputs of a graph shows its inputs, in order. -/
theorem forall₂_inputs (h : List.Forall₂ ShowsNode views g) :
    List.Forall₂ ShowsStream (views.filter (isStream .input)) g.inputs :=
  forall₂_streams h (fun _ => rfl) fun n hn => by
    cases n with
    | stream s => exact absurd rfl (hn s)
    | _ => rfl

/-- What is taken for the outputs of a graph shows its outputs, in order. -/
theorem forall₂_outputs (h : List.Forall₂ ShowsNode views g) :
    List.Forall₂ ShowsStream (views.filter (isStream .output)) g.outputs :=
  forall₂_streams h (fun _ => rfl) fun n hn => by
    cases n with
    | stream s => exact absurd rfl (hn s)
    | _ => rfl

/-- The mapped pads that are seen of a stream are those of the stream, and none if it has no list of
them. -/
theorem ShowsStream.mappedPads_eq {s : Stream} (h : v.ShowsStream s) :
    v.mappedPads = .ok (s.pads.map fun pad => .atom (.text pad)) := by
  unfold View.mappedPads
  rw [get_of_field h.mappedPads]
  unfold Stream.pads
  cases s.mappedPads with
  | none => rfl
  | some texts => cases texts <;> rfl

/-- The path that is seen of a stream is the path of the stream, whichever output it is. -/
theorem ShowsStream.outputPath_eq {s : Stream} (h : v.ShowsStream s) (index : Nat) :
    v.outputPath index = .ok s.path := by
  unfold outputPath
  rw [get_of_field h.path]
  rfl

/-- The paths that are seen of streams are the paths of the streams, in order. -/
theorem outputPaths_eq {vs : List View} {streams : List Stream}
    (h : List.Forall₂ ShowsStream vs streams) (start : Nat) :
    ((vs.zipIdx start).mapM fun (v, index) => v.outputPath index) =
      .ok (streams.map Stream.path) := by
  induction h generalizing start with
  | nil => rfl
  | cons hs _ ih =>
    rw [List.zipIdx_cons, List.mapM_cons, ih]
    dsimp only
    rw [hs.outputPath_eq]
    rfl

/-- Paths and pads put together again are outputs with these paths and pads. -/
theorem writings_eq (streams : List Stream) :
    (((streams.map Stream.path).zip (streams.map Stream.pads)).map
      fun (path, pads) => Stream.writing path "" (some pads)) =
        streams.map fun s => Stream.writing s.path "" (some s.pads) := by
  rw [List.zip_map', List.map_map]
  rfl

/-- What is seen of a graph is written like the graph. -/
theorem toGraph_eq (h : List.Forall₂ ShowsNode views g) :
    toGraph views = (g.stages.mapM Stage.written).map g.withStages := by
  have hinputs :
      ((views.filter (isStream .input)).map fun v => Stream.reading (v.get "path").plain) =
        g.inputs.map fun s => Stream.reading s.path := by
    rw [Paired.map_eq_iff]
    refine (forall₂_inputs h).imp fun v s hs => ?_
    rw [get_of_field hs.path]
    rfl
  have hstages : (views.filter isStage).mapM toStage = g.stages.mapM Stage.written :=
    Paired.mapM_eq ((forall₂_stages h).imp fun _ _ hs => hs.toStage_eq)
  have hpads : ((views.filter (isStream .output)).mapM fun v =>
      v.mappedPads.map fun pads => pads.map plain) = .ok (g.outputs.map Stream.pads) := by
    rw [Outcome.mapM_eq_ok_iff, List.forall₂_map_right_iff]
    refine (forall₂_outputs h).imp fun v s hs => ?_
    rw [hs.mappedPads_eq]
    exact toPads_ofTexts s.pads
  unfold toGraph
  rw [hinputs, hstages]
  dsimp only
  rw [hpads, outputPaths_eq (forall₂_outputs h) 0]
  cases g.stages.mapM Stage.written with
  | error failure => rfl
  | ok stages =>
    exact congrArg (fun outputs => Except.ok ((g.inputs.map fun s => Stream.reading s.path).map
      Node.stream ++ stages.map .stage ++ outputs.map .stream)) (writings_eq g.outputs)

/-- Leniently, what is seen of a graph has the command of the graph. -/
theorem lenientCommand_eq (h : List.Forall₂ ShowsNode views g) :
    (toGraph views >>= fun written => written.command) = g.command := by
  rw [toGraph_eq h, ← g.command_written]
  cases g.stages.mapM Stage.written <;> rfl

end Store.View

end FilterGraph
