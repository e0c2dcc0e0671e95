import FilterGraph.Proofs.ReadNodes

/-!
# What is found in what is seen

Validating what is seen of some nodes finds what validating the nodes finds (`View.validate_eq`).
The labels that are seen are atoms and those of a graph are texts, so the labels are renamed on the
way: counting them and going through them does not depend on what they are, as long as the same ones
are equal (`Pad.Uses.findings_map`). With this, strict compilation agrees as well
(`View.command_eq`).
-/

set_option autoImplicit false

namespace FilterGraph

namespace Pad.Uses

/-- The uses with other names for the labels. -/
def map {α β : Type} (rename : α → β) (u : Uses α) : Uses β where
  produced := u.produced.map rename
  consumed := u.consumed.map rename
  inputs := u.inputs

section Renaming

variable {α β : Type} [BEq α] [BEq β] {rename : α → β}
  (hrename : ∀ a b, (rename a == rename b) = (a == b))

include hrename

/-- A label is counted as often under its other name. -/
theorem count_map (labels : List α) (label : α) :
    (labels.map rename).count (rename label) = labels.count label := by
  unfold List.count
  rw [List.countP_map]
  congr 1
  funext other
  exact hrename other label

/-- A label is there if it is there under its other name. -/
theorem contains_map (labels : List α) (label : α) :
    (labels.map rename).contains (rename label) = labels.contains label := by
  rw [List.contains_eq_any_beq, List.contains_eq_any_beq, List.any_map]
  congr 1
  funext other
  exact hrename label other

/-- First occurrences stay first occurrences under other names. -/
theorem eraseDups_map (labels : List α) :
    (labels.map rename).eraseDups = labels.eraseDups.map rename := by
  -- what is left after the first label is no part of the list, but it is shorter
  induction hlength : labels.length using Nat.strong_induction_on generalizing labels with
  | _ length ih =>
    cases labels with
    | nil => rfl
    | cons label rest =>
      have hshorter : (rest.filter fun other => !other == label).length < length := by
        have hfilter := List.length_filter_le (fun other => !other == label) rest
        rw [List.length_cons] at hlength
        omega
      have hfilter : (rest.map rename).filter (fun other => !other == rename label) =
          (rest.filter fun other => !other == label).map rename := by
        rw [List.filter_map]
        congr 2
        funext other
        show (!rename other == rename label) = _
        rw [hrename]
      rw [List.map_cons, List.eraseDups_cons, hfilter, ih _ hshorter _ rfl, List.eraseDups_cons,
        List.map_cons]

/-- What is found about a label that is put out is found under its other name. -/
theorem productionFindings_map (text : β → String) (u : Uses α) (label : α) :
    (u.map rename).productionFindings text (rename label) =
      u.productionFindings (text ∘ rename) label := by
  have hcount : (u.map rename).produced.count (rename label) = u.produced.count label :=
    count_map hrename u.produced label
  have hconsumed : (u.map rename).consumed.contains (rename label) = u.consumed.contains label :=
    contains_map hrename u.consumed label
  unfold productionFindings
  rw [hcount, hconsumed]
  rfl

/-- What is found about a label that is taken in is found under its other name. -/
theorem consumptionFindings_map (text : β → String) (index? : β → Except Failure (Option Nat))
    (u : Uses α) (label : α) :
    (u.map rename).consumptionFindings text index? (rename label) =
      u.consumptionFindings (text ∘ rename) (index? ∘ rename) label := by
  have hcount : (u.map rename).consumed.count (rename label) = u.consumed.count label :=
    count_map hrename u.consumed label
  have hproduced : (u.map rename).produced.contains (rename label) = u.produced.contains label :=
    contains_map hrename u.produced label
  unfold consumptionFindings
  rw [hcount, hproduced]
  rfl

/-- Renaming the labels changes nothing about what is found. -/
theorem findings_map (text : β → String) (index? : β → Except Failure (Option Nat)) (u : Uses α) :
    (u.map rename).findings text index? = u.findings (text ∘ rename) (index? ∘ rename) := by
  have hproduced : (u.map rename).produced.eraseDups = u.produced.eraseDups.map rename :=
    eraseDups_map hrename u.produced
  have hconsumed : (u.map rename).consumed.eraseDups = u.consumed.eraseDups.map rename :=
    eraseDups_map hrename u.consumed
  have hproduction : (fun label => (u.map rename).productionFindings text (rename label)) =
      u.productionFindings (text ∘ rename) :=
    funext (productionFindings_map hrename text u)
  have hconsumption : (u.map rename).consumptionFindings text index? ∘ rename =
      u.consumptionFindings (text ∘ rename) (index? ∘ rename) :=
    funext (consumptionFindings_map hrename text index? u)
  unfold findings
  rw [hproduced, hconsumed, List.mapM_map, List.flatMap_map, hconsumption, hproduction]

end Renaming

end Pad.Uses

/-- Nothing but empty raw text is remarked on in the options of an operation. -/
theorem Operation.findings_of_ne {o : Operation} (h : o.options ≠ .payload (.raw ""))
    (stage : String) :
    o.findings stage = if o.name = "" then [.defect (.namelessOperation stage)] else [] := by
  unfold findings
  refine Eq.trans (congrArg₂ (· ++ ·) rfl ?_) (List.append_nil _)
  split
  · rename_i hraw
    exact absurd hraw h
  · rfl

namespace Store.View

/-! ### Labels -/

/-- A text as a label. -/
def textLabel (s : String) : Label := ⟨.text s⟩

/-- Labels that are texts are compared as texts. -/
theorem textLabel_beq (a b : String) : (textLabel a == textLabel b) = (a == b) := rfl

variable {v : View} {views : List View} {g : Graph}

/-- Texts can be counted as labels. -/
theorem toLabel_texts (pads : List String) :
    (pads.map fun pad => View.atom (.text pad)).mapM toLabel = .ok (pads.map textLabel) := by
  rw [Outcome.mapM_eq_ok_iff, List.forall₂_map_left_iff, List.forall₂_map_right_iff]
  exact List.forall₂_same.2 fun _ _ => rfl

/-- About a label that is a text, the same is found as about the text. -/
theorem padFindings_text (pad : String) :
    (View.atom (.text pad)).padFindings = .ok (FilterGraph.padFindings pad) := by
  unfold padFindings isVoid Atom.isVoid
  by_cases hpad : pad = ""
  · simp [hpad, FilterGraph.padFindings]
  · simp [hpad, characters?, Atom.characters?]

/-- About labels that are texts, the same is found as about the texts. -/
theorem padsFindings_texts (pads : List String) :
    padsFindings (pads.map fun pad => View.atom (.text pad)) =
      .ok (pads.flatMap FilterGraph.padFindings) := by
  have hfound : (pads.map fun pad => View.atom (.text pad)).mapM padFindings =
      .ok (pads.map FilterGraph.padFindings) := by
    rw [Outcome.mapM_eq_ok_iff, List.forall₂_map_left_iff, List.forall₂_map_right_iff]
    exact List.forall₂_same.2 fun pad _ => padFindings_text pad
  unfold padsFindings
  rw [hfound]
  rfl

/-! ### Stages -/

/-- Whether options are empty raw text is seen of them. -/
theorem emptyRaw_or_not {o : Options} (h : v.options? = some o) :
    (∃ fields, v = .record .raw fields ∧ (v.get "text").isVoid = true ∧ o = .payload (.raw "")) ∨
      (∀ fields, v = .record .raw fields → (v.get "text").isVoid = false) ∧
        o ≠ .payload (.raw "") := by
  have hloose : v.scalar?.map Options.loose = some o → o ≠ .payload (.raw "") := by
    intro h
    obtain ⟨x, -, rfl⟩ := Option.map_eq_some_iff.1 h
    exact Options.noConfusion
  -- of everything that can be read as options only a record of one shape is raw text
  cases v with
  | record shape fields =>
    cases shape with
    | keyed =>
      obtain ⟨values, -, rfl⟩ := Option.map_eq_some_iff.1 h
      exact .inr ⟨fun _ heq => (nomatch heq), fun heq => (nomatch heq)⟩
    | raw =>
      obtain ⟨text, htext, rfl⟩ := Option.map_eq_some_iff.1 h
      obtain ⟨u, hu, hread⟩ := field_of_readField .raw htext
      obtain rfl := text?_eq_some hread
      have hvoid : ((record .raw fields).get "text").isVoid = (text == "") := by
        rw [get_of_field hu]
        rfl
      by_cases hempty : text = ""
      · exact .inl ⟨fields, rfl, by rw [hvoid, hempty]; rfl, by rw [hempty]⟩
      · refine .inr ⟨fun _ _ => by rw [hvoid]; exact beq_false_of_ne hempty, ?_⟩
        exact fun heq => hempty (Payload.raw.inj (Options.payload.inj heq))
    | _ => exact nomatch h
  | _ => exact .inr ⟨fun _ heq => (nomatch heq), hloose h⟩

/-- What is found in what shows an operation is found in the operation. -/
theorem ShowsOperation.findings {o : Operation} (h : v.ShowsOperation o) (stage : String) :
    v.operationFindings stage = .ok (o.findings stage) := by
  obtain ⟨options, hoptions, hread⟩ := h.options
  unfold operationFindings
  rw [h.name, hoptions]
  rcases emptyRaw_or_not hread with ⟨fields, rfl, hvoid, hraw⟩ | ⟨hvoid, hne⟩
  · unfold Operation.findings
    rw [hraw]
    refine congrArg Except.ok (congrArg₂ (· ++ ·) ?_ (if_pos hvoid))
    simp [isVoid, Atom.isVoid]
  · rw [Operation.findings_of_ne hne]
    refine congrArg Except.ok (Eq.trans (congrArg₂ (· ++ ·) ?_ ?_) (List.append_nil _))
    · simp [isVoid, Atom.isVoid]
    · split
      · rename_i fields
        rw [if_neg (by rw [hvoid fields rfl]; exact Bool.false_ne_true)]
      · rfl

/-- What shows a stage is called in messages what the stage is called. -/
theorem ShowsStage.label {s : Stage} (h : v.ShowsStage s) : v.stageLabel = s.label := by
  unfold stageLabel Stage.label
  rw [get_of_field h.name]
  dsimp only
  by_cases hname : s.name = ""
  · simp [hname, isVoid, Atom.isVoid]
  · simp [hname, isVoid, Atom.isVoid, plain, Atom.plain]

/-- What is found in what shows a stage is found in the stage. -/
theorem ShowsStage.findings {s : Stage} (h : v.ShowsStage s) :
    v.stageFindings = .ok s.findings := by
  obtain ⟨operations, hoperations, hshows⟩ := h.operations
  have hpads : padsFindings ((s.inputPads ++ s.outputPads).map fun pad => View.atom (.text pad)) =
      .ok ((s.inputPads ++ s.outputPads).flatMap FilterGraph.padFindings) :=
    padsFindings_texts _
  have hfound : operations.mapM (operationFindings s.label) =
      .ok (s.operations.map (Operation.findings s.label)) := by
    rw [Outcome.mapM_eq_ok_iff, List.forall₂_map_right_iff]
    exact hshows.imp fun _ _ ho => ho.findings s.label
  have hempty : operations.isEmpty = s.operations.isEmpty := Paired.isEmpty_eq hshows
  have hjoined : joined (ofTexts s.inputPads) (ofTexts s.outputPads) =
      .ok ((s.inputPads ++ s.outputPads).map fun pad => .atom (.text pad)) := by
    rw [List.map_append]
    rfl
  unfold stageFindings
  rw [get_of_field h.inputPads, get_of_field h.outputPads, get_of_field hoperations, h.label,
    hjoined]
  show (padsFindings _ >>= fun pads => operations.mapM (operationFindings s.label) >>= fun found =>
    pure (pads ++ (if operations.isEmpty then [.remark (.idleStage s.label)] else []) ++
      found.flatten)) = _
  rw [hpads, hfound, hempty]
  rfl

/-! ### Graphs -/

/-- What shows a node takes in the pads of the node. -/
theorem ShowsNode.consumed_eq {n : Node} (h : v.ShowsNode n) :
    v.consumed = .ok (n.consumedPads.map fun pad => .atom (.text pad)) := by
  unfold View.consumed
  cases h with
  | @stream s hs =>
    rw [hs.isStage_eq, hs.isStream_eq, hs.mappedPads_eq]
    by_cases hd : s.direction = .output
    · simp [hd, Node.consumedPads]
    · simp [hd, Node.consumedPads]
  | @stage s hs =>
    rw [hs.isStage_eq, get_of_field hs.inputPads]
    rfl
  | operation o hstage hstream =>
    rw [hstage, hstream]
    rfl
  | value x hstage hstream =>
    rw [hstage, hstream]
    rfl

/-- The mapped pads that are seen of a stream are void if the stream takes in nothing. -/
theorem isVoid_mappedPads {s : Stream} (h : v.ShowsStream s) :
    (v.get "mapped_pads").isVoid = s.pads.isEmpty := by
  rw [get_of_field h.mappedPads]
  unfold Stream.pads
  cases s.mappedPads with
  | none => rfl
  | some texts => cases texts <;> rfl

/-- The path that is seen of a stream is shown as it is. -/
theorem plain_path {s : Stream} (h : v.ShowsStream s) : (v.get "path").plain = s.path := by
  rw [get_of_field h.path]
  rfl

section Parts

variable (h : List.Forall₂ ShowsNode views g)

include h

/-- What is found in the stages that are seen is found in the stages of the graph. -/
theorem stageFindings_eq : (views.filter isStage).mapM View.stageFindings =
    .ok (g.stages.map Stage.findings) := by
  rw [Outcome.mapM_eq_ok_iff, List.forall₂_map_right_iff]
  exact (forall₂_stages h).imp fun _ _ hs => hs.findings

/-- What is found about the mapped pads that are seen is found about those of the graph. -/
theorem mappedFindings_eq :
    ((views.filter (isStream .output)).mapM fun v => do padsFindings (← v.mappedPads)) =
      .ok (g.outputs.map fun s => s.pads.flatMap FilterGraph.padFindings) := by
  rw [Outcome.mapM_eq_ok_iff, List.forall₂_map_right_iff]
  refine (forall₂_outputs h).imp fun v s hs => ?_
  rw [hs.mappedPads_eq]
  exact padsFindings_texts s.pads

/-- The labels that are seen to be put out are those that the graph puts out. -/
theorem producedLabels_eq :
    ((views.filter isStage).mapM fun v => (v.get "output_pads").elements) >>=
      (fun produced => produced.flatten.mapM toLabel) = .ok (g.producedPads.map textLabel) := by
  have hproduced : ((views.filter isStage).mapM fun v => (v.get "output_pads").elements) =
      .ok (g.stages.map fun s => s.outputPads.map fun pad => .atom (.text pad)) := by
    rw [Outcome.mapM_eq_ok_iff, List.forall₂_map_right_iff]
    refine (forall₂_stages h).imp fun v s hs => ?_
    rw [get_of_field hs.outputPads]
    rfl
  rw [hproduced]
  show (g.stages.map fun s => s.outputPads.map fun pad => View.atom (.text pad)).flatten.mapM
    toLabel = _
  rw [← List.flatMap_def, ← List.map_flatMap]
  exact toLabel_texts g.producedPads

/-- The labels that are seen to be taken in are those that the graph takes in. -/
theorem consumedLabels_eq : (views.mapM View.consumed >>= fun consumed =>
    consumed.flatten.mapM toLabel) = .ok (g.consumedPads.map textLabel) := by
  have hconsumed : views.mapM View.consumed =
      .ok (g.map fun n => n.consumedPads.map fun pad => .atom (.text pad)) := by
    rw [Outcome.mapM_eq_ok_iff, List.forall₂_map_right_iff]
    exact h.imp fun _ _ hn => hn.consumed_eq
  rw [hconsumed]
  show (g.map fun n => n.consumedPads.map fun pad => View.atom (.text pad)).flatten.mapM toLabel = _
  rw [← List.flatMap_def, ← List.map_flatMap]
  exact toLabel_texts g.consumedPads

/-- The inputs that are seen to have mapped pads are those of the graph. -/
theorem ignored_eq :
    ((views.filter (isStream .input)).filter fun v => !(v.get "mapped_pads").isVoid).map
      (fun v => Finding.remark (.mappedInput (v.get "path").plain)) =
        (g.inputs.filter (!·.pads.isEmpty)).map fun s => .remark (.mappedInput s.path) := by
  have hkeep : ∀ (v : View) (s : Stream), v.ShowsStream s →
      (!(v.get "mapped_pads").isVoid) = !s.pads.isEmpty := by
    intro v s hs
    rw [isVoid_mappedPads hs]
  rw [Paired.map_eq_iff]
  exact (Paired.filter hkeep (forall₂_inputs h)).imp fun v s hs => by rw [plain_path hs.1]

/-- The outputs that are seen to have no mapped pads are those of the graph, and they only matter if
there are stages. -/
theorem unmapped_eq : ((if (views.filter isStage).isEmpty then [] else
    (views.filter (isStream .output)).filter fun v => (v.get "mapped_pads").isVoid).map
      fun v => Finding.defect (.unmappedOutput (v.get "path").plain)) =
    if g.stages.isEmpty then [] else
      (g.outputs.filter (·.pads.isEmpty)).map fun s => .defect (.unmappedOutput s.path) := by
  have hkeep : ∀ (v : View) (s : Stream), v.ShowsStream s →
      (v.get "mapped_pads").isVoid = s.pads.isEmpty := fun v s hs => isVoid_mappedPads hs
  rw [Paired.isEmpty_eq (forall₂_stages h)]
  split
  · rfl
  · rw [Paired.map_eq_iff]
    exact (Paired.filter hkeep (forall₂_outputs h)).imp fun v s hs => by rw [plain_path hs.1]

/-- What is found in what is seen of a graph is what is found in the graph. -/
theorem findings_eq : View.findings views = g.findings := by
  have huses : Pad.Uses.findings Label.text Label.inputIndex?
      { produced := g.producedPads.map textLabel, consumed := g.consumedPads.map textLabel,
        inputs := g.inputs.length } = g.uses.findings id Pad.inputIndex? :=
    Pad.Uses.findings_map textLabel_beq Label.text Label.inputIndex? g.uses
  have hstages : (g.stages.map Stage.findings).flatten = g.stages.flatMap Stage.findings :=
    List.flatMap_def.symm
  have hmapped : (g.outputs.map fun s => s.pads.flatMap FilterGraph.padFindings).flatten =
      g.mappedPads.flatMap FilterGraph.padFindings := by
    rw [← List.flatMap_def]
    exact List.flatMap_assoc.symm
  obtain ⟨produced, hproduced, hproducedLabels⟩ := Outcome.bind_eq_ok_iff.1 (producedLabels_eq h)
  obtain ⟨consumed, hconsumed, hconsumedLabels⟩ := Outcome.bind_eq_ok_iff.1 (consumedLabels_eq h)
  unfold View.findings Graph.findings Graph.streamFindings
  dsimp only
  rw [stageFindings_eq h, mappedFindings_eq h, hproduced, hconsumed, ignored_eq h, unmapped_eq h,
    (forall₂_inputs h).length_eq, (forall₂_outputs h).length_eq]
  simp only [bind, Except.bind, hproducedLabels, hconsumedLabels, huses, hstages, hmapped]
  cases g.uses.findings id Pad.inputIndex? with
  | error failure => rfl
  | ok found =>
    refine congrArg Except.ok ?_
    simp only [List.append_assoc]

end Parts

/-- What is seen of a graph validates like the graph. -/
theorem validate_eq (h : List.Forall₂ ShowsNode views g) : View.validate views = g.validate := by
  unfold View.validate Graph.validate
  rw [findings_eq h]

/-- What is seen of a graph has the command of the graph. -/
theorem command_eq (h : List.Forall₂ ShowsNode views g) (strict : Bool) :
    View.command views strict = g.command strict := by
  cases strict with
  | false => exact lenientCommand_eq h
  | true =>
    have hwritten : (toGraph views >>= fun written => written.command) =
        g.filterText.map g.commandAround := lenientCommand_eq h
    show (View.validate views >>= fun report => report.screen >>= fun _ =>
      toGraph views >>= fun written => written.command) =
        ((g.validate >>= Report.screen) >>= fun _ => g.filterText.map g.commandAround)
    rw [hwritten, validate_eq h]
    cases g.validate <;> rfl

end Store.View

end FilterGraph
