import FilterGraph.Proofs.EqualNodes
import FilterGraph.Proofs.SeenFindings
import FilterGraph.Store.Session

/-!
# One equal node in the place of another

Validation and compilation look at a few things in each member of a list by itself. Members that
agree in these can be put for each other, whatever else is in the list (`View.validate_congr`,
`View.command_congr`). Nodes that are read off equal values of a store resemble each other, so what
is seen of them agrees in everything that validation looks at, and if what is written of their
options agrees, in everything that compilation looks at (`interchangeable_of_equal`).

Equality alone is not enough for compilation: a dictionary equals another one with its entries in a
different order, and one equals the double one, but they are written differently
(`exists_equal_rendered_differently`).
-/

set_option autoImplicit false

namespace FilterGraph

namespace Store.View

variable {v w : View} {views others : List View}

/-- Both are stages or neither is, and both are streams of the same direction, with the same path
and the same labels, or neither is. -/
structure SelectedLike (v w : View) : Prop where
  isStage : v.isStage = w.isStage
  isStream (d : Direction) : v.isStream d = w.isStream d
  path {d : Direction} (h : v.isStream d = true) : v.get "path" = w.get "path"
  mappedPads {d : Direction} (h : v.isStream d = true) : v.get "mapped_pads" = w.get "mapped_pads"

/-- Validation finds the same in both and takes the same labels from them. -/
structure ValidatesLike (v w : View) : Prop extends SelectedLike v w where
  consumed : v.consumed = w.consumed
  stageFindings (h : v.isStage = true) : v.stageFindings = w.stageFindings
  outputPads (h : v.isStage = true) : v.get "output_pads" = w.get "output_pads"

/-- The same is written of both. -/
structure WrittenLike (v w : View) : Prop extends SelectedLike v w where
  toStage (h : v.isStage = true) : v.toStage = w.toStage

/-- Whatever is seen validates like itself. -/
theorem ValidatesLike.refl (v : View) : v.ValidatesLike v where
  isStage := rfl
  isStream _ := rfl
  path _ := rfl
  mappedPads _ := rfl
  consumed := rfl
  stageFindings _ := rfl
  outputPads _ := rfl

/-- Whatever is seen is written like itself. -/
theorem WrittenLike.refl (v : View) : v.WrittenLike v where
  isStage := rfl
  isStream _ := rfl
  path _ := rfl
  mappedPads _ := rfl
  toStage _ := rfl

/-! ### Lists of views -/

section SelectedLike

variable (h : List.Forall₂ SelectedLike views others)

include h

/-- The stages stand in the same places. -/
theorem filter_isStage :
    List.Forall₂ (fun v w => v.SelectedLike w ∧ v.isStage = true) (views.filter isStage)
      (others.filter isStage) :=
  Paired.filter (fun _ _ hvw => hvw.isStage) h

/-- The streams of a direction stand in the same places, with the same paths and the same labels. -/
theorem filter_isStream (d : Direction) :
    List.Forall₂
      (fun v w => v.get "path" = w.get "path" ∧ v.get "mapped_pads" = w.get "mapped_pads")
      (views.filter (isStream d)) (others.filter (isStream d)) :=
  (Paired.filter (fun _ _ hvw => hvw.isStream d) h).imp fun _ _ hvw =>
    ⟨hvw.1.path hvw.2, hvw.1.mappedPads hvw.2⟩

/-- Validation remarks on the same inputs with mapped pads. -/
theorem ignored_congr :
    ((views.filter (isStream .input)).filter fun v => !(v.get "mapped_pads").isVoid).map
      (fun v => Finding.remark (.mappedInput (v.get "path").plain)) =
    ((others.filter (isStream .input)).filter fun v => !(v.get "mapped_pads").isVoid).map
      (fun v => Finding.remark (.mappedInput (v.get "path").plain)) := by
  rw [Paired.map_eq_iff]
  refine (Paired.filter ?_ (filter_isStream h .input)).imp fun _ _ hvw => by rw [hvw.1.1]
  exact fun _ _ hvw => by rw [hvw.2]

/-- Validation finds the same outputs without mapped pads. -/
theorem unmapped_congr :
    (if (views.filter isStage).isEmpty then [] else
      (views.filter (isStream .output)).filter fun v => (v.get "mapped_pads").isVoid).map
        (fun v => Finding.defect (.unmappedOutput (v.get "path").plain)) =
    (if (others.filter isStage).isEmpty then [] else
      (others.filter (isStream .output)).filter fun v => (v.get "mapped_pads").isVoid).map
        (fun v => Finding.defect (.unmappedOutput (v.get "path").plain)) := by
  rw [Paired.isEmpty_eq (filter_isStage h)]
  split
  · rfl
  · rw [Paired.map_eq_iff]
    refine (Paired.filter ?_ (filter_isStream h .output)).imp fun _ _ hvw => by rw [hvw.1.1]
    exact fun _ _ hvw => by rw [hvw.2]

end SelectedLike

/-- Members in which validation finds the same may be put for each other. -/
theorem findings_congr (h : List.Forall₂ ValidatesLike views others) :
    findings views = findings others := by
  -- each part of the findings goes through the stages, the streams or all members in their order
  have hselected := h.imp fun _ _ hvw => hvw.toSelectedLike
  have hstages := Paired.filter (fun _ _ hvw => hvw.isStage) h
  have hstageFindings : (views.filter isStage).mapM stageFindings =
      (others.filter isStage).mapM stageFindings :=
    Paired.mapM_eq (hstages.imp fun _ _ hvw => hvw.1.stageFindings hvw.2)
  have hmapped :
      ((views.filter (isStream .output)).mapM fun v => do padsFindings (← v.mappedPads)) =
        ((others.filter (isStream .output)).mapM fun v => do padsFindings (← v.mappedPads)) := by
    refine Paired.mapM_eq ((filter_isStream hselected .output).imp fun _ _ hvw => ?_)
    unfold mappedPads
    rw [hvw.2]
  have hproduced : ((views.filter isStage).mapM fun v => (v.get "output_pads").elements) =
      (others.filter isStage).mapM fun v => (v.get "output_pads").elements :=
    Paired.mapM_eq (hstages.imp fun _ _ hvw => by rw [hvw.1.outputPads hvw.2])
  have hconsumed : views.mapM consumed = others.mapM consumed :=
    Paired.mapM_eq (h.imp fun _ _ hvw => hvw.consumed)
  unfold findings
  dsimp only
  rw [hstageFindings, hmapped, hproduced, hconsumed, ignored_congr hselected,
    unmapped_congr hselected, (filter_isStream hselected .input).length_eq,
    (filter_isStream hselected .output).length_eq]

/-- Members in which validation finds the same may be put for each other in what is validated. -/
theorem validate_congr (h : List.Forall₂ ValidatesLike views others) :
    validate views = validate others := by
  unfold validate
  rw [findings_congr h]

/-- The paths of the outputs are the same, and so are the failures where an output has none. -/
theorem outputPaths_congr (h : List.Forall₂ SelectedLike views others) :
    ((views.filter (isStream .output)).zipIdx.mapM fun (v, index) => v.outputPath index) =
      (others.filter (isStream .output)).zipIdx.mapM fun (v, index) => v.outputPath index := by
  refine Paired.mapM_eq ((Paired.zipIdx (filter_isStream h .output) 0).imp ?_)
  rintro ⟨v, index⟩ ⟨w, _⟩ ⟨⟨hpath, -⟩, rfl⟩
  dsimp only at hpath ⊢
  unfold outputPath
  rw [hpath]

/-- Members of which the same is written may be put for each other. -/
theorem toGraph_congr (h : List.Forall₂ WrittenLike views others) :
    toGraph views = toGraph others := by
  have hselected := h.imp fun _ _ hvw => hvw.toSelectedLike
  have hstages : (views.filter isStage).mapM toStage = (others.filter isStage).mapM toStage :=
    Paired.mapM_eq ((Paired.filter (fun _ _ hvw => hvw.isStage) h).imp fun _ _ hvw =>
      hvw.1.toStage hvw.2)
  have hinputs :
      ((views.filter (isStream .input)).map fun v => Stream.reading (v.get "path").plain) =
        (others.filter (isStream .input)).map fun v => Stream.reading (v.get "path").plain := by
    rw [Paired.map_eq_iff]
    exact (filter_isStream hselected .input).imp fun _ _ hvw => by rw [hvw.1]
  have hpads : ((views.filter (isStream .output)).mapM fun v =>
      v.mappedPads.map fun pads => pads.map plain) =
        (others.filter (isStream .output)).mapM fun v =>
          v.mappedPads.map fun pads => pads.map plain := by
    refine Paired.mapM_eq ((filter_isStream hselected .output).imp fun _ _ hvw => ?_)
    unfold mappedPads
    rw [hvw.2]
  unfold toGraph
  rw [hinputs, hstages]
  dsimp only
  rw [hpads, outputPaths_congr hselected]

/-- Members in which validation finds the same and of which the same is written may be put for each
other. -/
theorem command_congr (h : List.Forall₂ ValidatesLike views others)
    (hwritten : List.Forall₂ WrittenLike views others) (strict : Bool) :
    command views strict = command others strict := by
  unfold command
  rw [validate_congr h, toGraph_congr hwritten]

/-- A member may be replaced by one that is related to it, if every member is related to itself. -/
theorem replaced {related : View → View → Prop} (hrefl : ∀ u, related u u) (hvw : related v w)
    (before after : List View) :
    List.Forall₂ related (before ++ v :: after) (before ++ w :: after) :=
  List.rel_append (List.forall₂_same.2 fun u _ => hrefl u)
    (.cons hvw (List.forall₂_same.2 fun u _ => hrefl u))

/-! ### Nodes that resemble each other -/

variable {n m : Node}

/-- Two views of one stream are selected alike. -/
theorem ShowsStream.selectedLike {s : Stream} (hv : v.ShowsStream s) (hw : w.ShowsStream s) :
    v.SelectedLike w where
  isStage := by rw [hv.isStage_eq, hw.isStage_eq]
  isStream d := by rw [hv.isStream_eq, hw.isStream_eq]
  path _ := by rw [get_of_field hv.path, get_of_field hw.path]
  mappedPads _ := by rw [get_of_field hv.mappedPads, get_of_field hw.mappedPads]

/-- Views that show no stream are selected alike if both show a stage or neither does. -/
theorem selectedLike_of_not_stream (hstage : v.isStage = w.isStage) (hv : ∀ d, v.isStream d = false)
    (hw : ∀ d, w.isStream d = false) : v.SelectedLike w where
  isStage := hstage
  isStream d := by rw [hv, hw]
  path h := by simp [hv] at h
  mappedPads h := by simp [hv] at h

/-- Views of nodes that resemble each other are selected alike. -/
theorem ShowsNode.selectedLike (hv : v.ShowsNode n) (hw : w.ShowsNode m) (h : n.Resembles m) :
    v.SelectedLike w := by
  cases h with
  | stream s =>
    obtain ⟨hv⟩ := hv
    obtain ⟨hw⟩ := hw
    exact hv.selectedLike hw
  | stage h =>
    cases hv with
    | stage hv =>
      cases hw with
      | stage hw =>
        exact selectedLike_of_not_stream (hv.isStage_eq.trans hw.isStage_eq.symm) hv.isStream_eq
          hw.isStream_eq
  | operation o p =>
    cases hv with
    | operation _ hv hv' =>
      cases hw with
      | operation _ hw hw' => exact selectedLike_of_not_stream (hv.trans hw.symm) hv' hw'
  | value x y =>
    cases hv with
    | value _ hv hv' =>
      cases hw with
      | value _ hw hw' => exact selectedLike_of_not_stream (hv.trans hw.symm) hv' hw'

/-- If one of the nodes is a stage, then so is the other one, and the two stages resemble each
other. -/
theorem ShowsNode.exists_stages (hv : v.ShowsNode n) (hw : w.ShowsNode m) (h : n.Resembles m)
    (hstage : v.isStage = true) :
    ∃ s t, n = .stage s ∧ m = .stage t ∧ v.ShowsStage s ∧ w.ShowsStage t ∧ s.Resembles t := by
  cases hv with
  | stream hv => exact absurd (hstage.symm.trans hv.isStage_eq) (by decide)
  | stage hv =>
    cases h with
    | stage h =>
      cases hw with
      | stage hw => exact ⟨_, _, rfl, rfl, hv, hw, h⟩
  | operation _ hnone => exact absurd (hstage.symm.trans hnone) (by decide)
  | value _ hnone => exact absurd (hstage.symm.trans hnone) (by decide)

/-- Validation finds the same in what is seen of nodes that resemble each other. -/
theorem ShowsNode.validatesLike (hv : v.ShowsNode n) (hw : w.ShowsNode m) (h : n.Resembles m) :
    v.ValidatesLike w where
  toSelectedLike := hv.selectedLike hw h
  consumed := by rw [hv.consumed_eq, hw.consumed_eq, h.consumedPads_eq]
  stageFindings hstage := by
    obtain ⟨s, t, -, -, hv, hw, hst⟩ := hv.exists_stages hw h hstage
    rw [hv.findings, hw.findings, hst.findings_eq]
  outputPads hstage := by
    obtain ⟨s, t, -, -, hv, hw, hst⟩ := hv.exists_stages hw h hstage
    rw [get_of_field hv.outputPads, get_of_field hw.outputPads, hst.outputPads]

/-- If what is written of the options of the nodes agrees as well, the same is written of what is
seen of them. -/
theorem ShowsNode.writtenLike (hv : v.ShowsNode n) (hw : w.ShowsNode m) (h : n.Resembles m)
    (hinscriptions : n.inscriptions = m.inscriptions) : v.WrittenLike w where
  toSelectedLike := hv.selectedLike hw h
  toStage hstage := by
    obtain ⟨s, t, rfl, rfl, hv, hw, hst⟩ := hv.exists_stages hw h hstage
    rw [hv.toStage_eq, hw.toStage_eq, hst.written_eq hinscriptions]

end Store.View

namespace Store

/-- **Equal nodes can be put for each other.** Nodes that are read off equal values of a store make
no difference to what a list of nodes with one of them in it is validated to, whatever else a
session has put into the list. If their operations, one by one, list the same option keys in the
same order with values of the same text, then they are written alike, and they make no difference to
the command, be it strict or not. For streams this is always so, and for stages with raw text as
their options. -/
theorem interchangeable_of_equal {cells : Cells} {v w : Value} {n m : Node}
    (hn : (cells.view v).node? = some n) (hm : (cells.view w).node? = some m)
    (hequal : cells.equal v w = true) :
    (∀ before after : List View, View.validate (before ++ cells.view v :: after) =
      View.validate (before ++ cells.view w :: after)) ∧
    (∀ before after : Graph,
      Graph.validate (before ++ n :: after) = Graph.validate (before ++ m :: after)) ∧
    (n.OnlyRaw → n.inscriptions = m.inscriptions) ∧
    (n.inscriptions = m.inscriptions →
      n.stage?.map Stage.render = m.stage?.map Stage.render ∧
      ∀ strict : Bool,
        (∀ before after : List View, View.command (before ++ cells.view v :: after) strict =
          View.command (before ++ cells.view w :: after) strict) ∧
        ∀ before after : Graph,
          Graph.command (before ++ n :: after) strict =
            Graph.command (before ++ m :: after) strict ∧
          Graph.arguments (before ++ n :: after) strict =
            Graph.arguments (before ++ m :: after) strict) := by
  have hnm : n.Resembles m := View.Respects.node (Cells.agrees_view hequal) hn hm
  have hv := View.showsNode_of_node? hn
  have hw := View.showsNode_of_node? hm
  have hvalidates := View.replaced View.ValidatesLike.refl (hv.validatesLike hw hnm)
  have hgraphs := Graph.Resembles.replaced hnm
  refine ⟨fun before after => View.validate_congr (hvalidates before after),
    fun before after => (hgraphs before after).validate, hnm.inscriptions_eq,
    fun hinscriptions => ?_⟩
  have hwritten := View.replaced View.WrittenLike.refl (hv.writtenLike hw hnm hinscriptions)
  refine ⟨hnm.render_eq hinscriptions,
    fun strict => ⟨fun before after => ?_, fun before after => ?_⟩⟩
  · exact View.command_congr (hvalidates before after) (hwritten before after) strict
  · have hmap : (before ++ n :: after).map Node.inscriptions =
        (before ++ m :: after).map Node.inscriptions := by
      rw [List.map_append, List.map_append, List.map_cons, List.map_cons, hinscriptions]
    exact ⟨(hgraphs before after).command hmap strict, (hgraphs before after).arguments hmap strict⟩

/-- A session that builds two stages, each with one operation of its own. -/
def twoStages (options others : List (String × Scalar)) : State := State.after {} [
  { action := .make (.dictionary options), name := some "options" },
  { action := .make (.operationOf "crop" (.one ⟨"options", []⟩)), name := some "crop" },
  { action := .make (.stageOf "" .absent .absent (.many [⟨"crop", []⟩])), name := some "stage" },
  { action := .make (.dictionary others), name := some "others" },
  { action := .make (.operationOf "crop" (.one ⟨"others", []⟩)), name := some "again" },
  { action := .make (.stageOf "" .absent .absent (.many [⟨"again", []⟩])), name := some "other" }]

/-- Two stages with the same options, built one after the other, are two objects that can be put for
each other. -/
theorem interchangeable_twoStages :
    let s := twoStages [("w", .int 640), ("h", .text "ih/2")] [("w", .int 640), ("h", .text "ih/2")]
    ∃ (v w : Value) (n m : Node), v ≠ w ∧
      s.resolve ⟨"stage", []⟩ = .ok v ∧ s.resolve ⟨"other", []⟩ = .ok w ∧
      (s.cells.view v).node? = some n ∧ (s.cells.view w).node? = some m ∧
      s.cells.equal v w = true ∧ n.inscriptions = m.inscriptions ∧
      n.stage?.map Stage.render = some (.ok "crop=w=640:h=ih/2") ∧
      n.stage?.map Stage.render = m.stage?.map Stage.render ∧
      (∀ strict, View.command [s.cells.view v] strict = View.command [s.cells.view w] strict) ∧
      ∀ strict, Graph.command [.stream (.reading "in.mp4"), n] strict =
        Graph.command [.stream (.reading "in.mp4"), m] strict := by
  intro s
  obtain ⟨v, w, n, m, hne, hv, hw, hn, hm, hequal, hinscriptions, htext⟩ :
      ∃ (v w : Value) (n m : Node), v ≠ w ∧
        s.resolve ⟨"stage", []⟩ = .ok v ∧ s.resolve ⟨"other", []⟩ = .ok w ∧
        (s.cells.view v).node? = some n ∧ (s.cells.view w).node? = some m ∧
        s.cells.equal v w = true ∧ n.inscriptions = m.inscriptions ∧
        n.stage?.map Stage.render = some (.ok "crop=w=640:h=ih/2") :=
    ⟨_, _, _, _, by decide, rfl, rfl, rfl, rfl, rfl, rfl, rfl⟩
  obtain ⟨hrender, hcommand⟩ := (interchangeable_of_equal hn hm hequal).2.2.2 hinscriptions
  exact ⟨v, w, n, m, hne, hv, hw, hn, hm, hequal, hinscriptions, htext, hrender,
    fun strict => (hcommand strict).1 [] [],
    fun strict => ((hcommand strict).2 [.stream (.reading "in.mp4")] []).1⟩

/-- The two stages of a session are equal, but their texts and their commands are not the same. -/
def WrittenDifferently (s : State) : Prop :=
  ∃ (v w : Value) (n m : Node),
    s.resolve ⟨"stage", []⟩ = .ok v ∧ s.resolve ⟨"other", []⟩ = .ok w ∧
    (s.cells.view v).node? = some n ∧ (s.cells.view w).node? = some m ∧
    s.cells.equal v w = true ∧
    n.stage?.map Stage.render ≠ m.stage?.map Stage.render ∧
    Graph.command [n] ≠ Graph.command [m] ∧ Graph.arguments [n] ≠ Graph.arguments [m]

/-- Stages can be equal and be written differently: with their options in another order, and with
true for one. -/
theorem exists_equal_rendered_differently :
    WrittenDifferently (twoStages [("w", .text "640"), ("h", .text "360")]
      [("h", .text "360"), ("w", .text "640")]) ∧
    WrittenDifferently (twoStages [("exact", .bool true)] [("exact", .int 1)]) :=
  ⟨⟨_, _, _, _, rfl, rfl, rfl, rfl, rfl, by decide, by decide, by decide⟩,
    ⟨_, _, _, _, rfl, rfl, rfl, rfl, rfl, by decide, by decide, by decide⟩⟩

end Store

end FilterGraph
