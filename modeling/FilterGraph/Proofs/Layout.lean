import FilterGraph.Command
import FilterGraph.Proofs.Outcome

/-!
# One layout of a command

A command has four sections: the inputs, the filter graph, the mapped pads and the outputs. There
are three definitions that lay them out, for the text, for the arguments and for the annotations,
and each walks through the graph by itself. They agree: the annotations of a graph that compiles
explain some sections, and the other two forms of the command are put together from just these
(`Graph.layout_of_command_eq_ok`). Nothing is asked of the texts in the graph for this.
-/

set_option autoImplicit false

namespace FilterGraph

/-- What the four sections of a command say, without the flags that they say it with. -/
structure Sections where
  inputs : List String
  filters : List String
  maps : List String
  outputs : List String

namespace Sections

/-- The sections as arguments, each flag and each value by itself. -/
def arguments (s : Sections) : List String :=
  s.inputs.flatMap (fun path => ["-i", path]) ++
    ["-filter_complex", String.intercalate ";" s.filters] ++
    s.maps.flatMap (fun pad => ["-map", pad]) ++ s.outputs

/-- The sections as text, with quotes around the filter graph and around each pad. -/
def text (s : Sections) : String :=
  String.join (s.inputs.map fun path => "-i " ++ path ++ " ") ++
    ("-filter_complex '" ++ String.intercalate ";" s.filters ++ "'") ++
    String.join (s.maps.map fun pad => " -map '" ++ pad ++ "'") ++
    (" " ++ String.intercalate " " s.outputs)

end Sections

/-- The flags that some annotations of one category are about. -/
def flagsOf (category : FlagCategory) (annotations : List Annotation) : List String :=
  (annotations.filter (·.category = category)).map Annotation.flag

/-- The annotations explain a command section by section: there is one for each value of a section,
and its flag has the mark of the section and the value. -/
structure Sections.IsExplainedBy (s : Sections) (annotations : List Annotation) : Prop where
  categories : annotations.map Annotation.category =
    List.replicate s.inputs.length .input ++ List.replicate s.filters.length .filter ++
      List.replicate s.maps.length .map ++ List.replicate s.outputs.length .output
  inputs : flagsOf .input annotations = s.inputs.map ("-i " ++ ·)
  filters : flagsOf .filter annotations = s.filters
  maps : flagsOf .map annotations = s.maps.map ("-map " ++ ·)
  outputs : flagsOf .output annotations = s.outputs

/-- The category and the flag that an annotation is about. -/
def Annotation.tag (a : Annotation) : FlagCategory × String := (a.category, a.flag)

/-- Annotations whose tags come section by section explain the sections. -/
theorem Sections.isExplainedBy_of_tags {s : Sections} {annotations : List Annotation}
    (htags : annotations.map Annotation.tag =
      s.inputs.map (fun path => (.input, "-i " ++ path)) ++ s.filters.map (fun f => (.filter, f)) ++
        s.maps.map (fun pad => (.map, "-map " ++ pad)) ++
          s.outputs.map fun path => (.output, path)) :
    s.IsExplainedBy annotations := by
  have hcategories : annotations.map Annotation.category =
      (annotations.map Annotation.tag).map Prod.fst := by
    rw [List.map_map]
    rfl
  have hflags : ∀ category, flagsOf category annotations =
      ((annotations.map Annotation.tag).filter (·.1 = category)).map Prod.snd := by
    intro category
    rw [List.filter_map, List.map_map]
    rfl
  constructor
  · rw [hcategories, htags]
    simp [Function.comp_def]
  -- of the four parts, a category keeps its own one whole and nothing of the others
  all_goals
    rw [hflags, htags]
    simp [List.filter_map, Function.comp_def]

namespace Graph

variable (g : Graph)

/-- The sections of the command of a graph whose stages have the given texts. -/
def sections (filters : List String) : Sections where
  inputs := g.inputs.map Stream.path
  filters := filters
  maps := g.mappedPads.map padText
  outputs := g.outputs.map Stream.path

/-- Around the filter graph, the arguments of the sections are those of the graph. -/
theorem arguments_sections (filters : List String) :
    (g.sections filters).arguments = g.argumentsAround (String.intercalate ";" filters) := by
  unfold Sections.arguments argumentsAround sections
  rw [List.flatMap_map, List.flatMap_map]

/-- Around the filter graph, the text of the sections is the command of the graph. -/
theorem text_sections (filters : List String) :
    (g.sections filters).text = g.commandAround (String.intercalate ";" filters) := by
  unfold Sections.text commandAround sections inputFlags filterFlag mapFlags outputPaths
  rw [List.map_map, List.map_map, ← String.append_assoc]
  rfl

/-- Each input is explained once, by its flag and its path. -/
theorem tags_explainInputs :
    g.explainInputs.map Annotation.tag =
      g.inputs.map fun s => (.input, "-i " ++ s.path) := by
  have hpaths := congrArg (List.map fun s : Stream => (FlagCategory.input, "-i " ++ s.path))
    (List.zipIdx_map_fst 0 g.inputs)
  -- the number of an input stands in its explanation and not in its flag
  rw [← hpaths]
  unfold explainInputs
  rw [List.map_map, List.map_map]
  rfl

/-- Each stage is explained once, by its text. -/
theorem tags_explainStage {stages : List Stage} {filters : List String}
    (h : stages.mapM Stage.render = .ok filters) :
    (List.zipWith explainStage stages filters).map Annotation.tag =
      filters.map fun text => (.filter, text) := by
  -- each stage has its text, so that pairing them up leaves none out
  have hrendered := Outcome.mapM_eq_ok_iff.1 h
  clear h
  induction hrendered with
  | nil => rfl
  | cons _ _ ih =>
    rw [List.zipWith_cons_cons, List.map_cons, List.map_cons, ih]
    rfl

/-- Each mapped pad is explained once, by its flag and its label in brackets. -/
theorem tags_explainMaps :
    g.explainMaps.map Annotation.tag =
      g.mappedPads.map fun pad => (.map, "-map " ++ padText pad) := by
  unfold explainMaps
  rw [List.map_map]
  rfl

/-- Each output is explained once, by its path. -/
theorem tags_explainOutputs :
    g.explainOutputs.map Annotation.tag = g.outputs.map fun s => (.output, s.path) := by
  unfold explainOutputs
  rw [List.map_map]
  rfl

/-- If all stages have a text, the arguments are those of the sections. -/
theorem arguments_eq {filters : List String} (h : g.stageTexts = .ok filters) :
    g.arguments = .ok (g.sections filters).arguments := by
  rw [arguments_lenient, filterText, h, arguments_sections]
  rfl

/-- A graph whose stages have texts is annotated with them. -/
theorem annotate_eq {filters : List String} (h : g.stageTexts = .ok filters) :
    g.annotate = .ok {
      arguments := (g.sections filters).arguments
      annotations := g.explainInputs ++ List.zipWith explainStage g.stages filters ++
        g.explainMaps ++ g.explainOutputs } := by
  unfold annotate
  rw [g.arguments_eq h, Outcome.mapM_map_eq_ok explainStage h]
  rfl

/-- **Text, arguments and annotations have one layout.** A graph that compiles has some texts for
its stages. The annotations explain the sections with these texts, one annotation for each value in
its place, and the arguments and the text are both put together from the same sections. -/
theorem layout_of_command_eq_ok {text : String} (hcommand : g.command = .ok text) :
    ∃ filters annotated, g.stageTexts = .ok filters ∧ g.annotate = .ok annotated ∧
      (g.sections filters).IsExplainedBy annotated.annotations ∧
      annotated.arguments = (g.sections filters).arguments ∧
      g.arguments = .ok (g.sections filters).arguments ∧
      text = (g.sections filters).text := by
  rw [command_lenient] at hcommand
  obtain ⟨graph, hgraph, rfl⟩ := Outcome.map_eq_ok_iff.1 hcommand
  obtain ⟨filters, hfilters, rfl⟩ := Outcome.map_eq_ok_iff.1 hgraph
  refine ⟨filters, _, hfilters, g.annotate_eq hfilters, ?_, rfl, ?_, (g.text_sections filters).symm⟩
  · apply Sections.isExplainedBy_of_tags
    rw [List.map_append, List.map_append, List.map_append, tags_explainInputs,
      tags_explainStage hfilters, tags_explainMaps, tags_explainOutputs]
    unfold sections
    rw [List.map_map, List.map_map, List.map_map]
    rfl
  · exact g.arguments_eq hfilters

/-- A graph with two stages and two outputs, the first of which takes in nothing, and its nodes in
an order of their own. -/
def previewGraph : Graph :=
  [.stream (.writing "poster.png"),
    .stage {
      inputPads := ["0:v"]
      outputPads := ["small"]
      operations := [{ name := "scale", options := .payload (.raw "320:-2") }] },
    .stream (.writing "preview.mp4" "" (some ["small", "quiet"])),
    .stream (.reading "in.mp4"),
    .stage {
      inputPads := ["0:a"]
      outputPads := ["quiet"]
      operations := [
        { name := "volume", options := .payload (.keyed [("volume", .text "0.5")]) }] }]

/-- The layout of the graph, section by section. -/
theorem layout_previewGraph :
    previewGraph.command = .ok ("-i in.mp4 "
      ++ "-filter_complex '[0:v]scale=320:-2[small];[0:a]volume=volume=0.5[quiet]'"
      ++ " -map '[small]' -map '[quiet]' poster.png preview.mp4") ∧
    ∃ annotated, previewGraph.annotate = .ok annotated ∧
      Sections.IsExplainedBy {
        inputs := ["in.mp4"]
        filters := ["[0:v]scale=320:-2[small]", "[0:a]volume=volume=0.5[quiet]"]
        maps := ["[small]", "[quiet]"]
        outputs := ["poster.png", "preview.mp4"] } annotated.annotations ∧
      previewGraph.arguments = .ok annotated.arguments := by
  have hcommand : previewGraph.command = .ok ("-i in.mp4 "
      ++ "-filter_complex '[0:v]scale=320:-2[small];[0:a]volume=volume=0.5[quiet]'"
      ++ " -map '[small]' -map '[quiet]' poster.png preview.mp4") := rfl
  obtain ⟨filters, annotated, hfilters, hannotated, hexplained, hcarried, harguments, -⟩ :=
    previewGraph.layout_of_command_eq_ok hcommand
  obtain rfl : ["[0:v]scale=320:-2[small]", "[0:a]volume=volume=0.5[quiet]"] = filters :=
    Except.ok.inj hfilters
  exact ⟨hcommand, annotated, hannotated, hexplained, by rw [harguments, hcarried]⟩

end Graph

end FilterGraph
