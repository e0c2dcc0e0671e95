import FilterGraph.Proofs.CommandWords
import FilterGraph.Proofs.Defects
import FilterGraph.Proofs.Delimited
import FilterGraph.Proofs.Outcome

/-!
# Commands are uniquely readable

What a command shows of a graph is its outline: the paths, the pads and the operations with their
option texts, each in order. As long as no text holds a delimiter of the level that it is written
on, the arguments of a command determine the outline (`Graph.outline_eq_of_arguments_eq`).

The argument follows the levels of the text. An operation is cut at its first equals sign, a chain
at its commas, a stage where its first and its last brackets stand, the filter graph at its
semicolons, and the arguments at their flags.
-/

set_option autoImplicit false

namespace FilterGraph

open Delimited

/-! ### Outlines -/

/-- What a command shows of an operation: its name and the text of its options. -/
def Operation.outline (o : Operation) : String × Except Failure String := (o.name, o.options.render)

/-- What a command shows of a stage. -/
structure Stage.Outline where
  inputPads : List String
  outputPads : List String
  operations : List (String × Except Failure String)

/-- The outline of a stage. -/
def Stage.outline (s : Stage) : Stage.Outline where
  inputPads := s.inputPads
  outputPads := s.outputPads
  operations := s.operations.map Operation.outline

/-- What a command shows of a graph. -/
structure Graph.Outline where
  inputPaths : List String
  stages : List Stage.Outline
  mappedPads : List String
  outputPaths : List String

/-- The outline of a graph. -/
def Graph.outline (g : Graph) : Graph.Outline where
  inputPaths := g.inputs.map Stream.path
  stages := g.stages.map Stage.outline
  mappedPads := g.mappedPads
  outputPaths := g.outputs.map Stream.path

/-! ### Legible graphs -/

/-- An operation whose name and options hold no delimiter that would end them early. The name may be
empty: it ends at the equals sign like any other. -/
structure Operation.Legible (o : Operation) : Prop where
  name : ∀ c ∈ o.name.toList, c ∉ reservedChars ∧ c ≠ '='
  options : ∀ text, o.options.render = .ok text → ∀ c ∈ text.toList, c ∉ reservedChars

/-- A stage that does something, with legible operations and labels that can be written. -/
structure Stage.Legible (s : Stage) : Prop where
  nonempty : s.operations ≠ []
  labels : ∀ pad ∈ s.inputPads ++ s.outputPads, (padReport pad).valid = true
  operations : ∀ o ∈ s.operations, o.Legible

/-- A graph with legible stages whose first output is not taken for a flag. -/
structure Graph.Legible (g : Graph) : Prop where
  stages : ∀ s ∈ g.stages, s.Legible
  firstOutput : ∀ s, g.outputs.head? = some s → s.path ≠ "-map"

/-! ### Joined texts -/

section Joined

variable {α γ : Type} {render : α → Except Failure String} {members others : List α}

/-- What holds of the text of each member holds of each part of the joined text. -/
theorem parts_of_mapM {P : List Char → Prop} {texts : List String}
    (hmembers : ∀ a ∈ members, ∀ text, render a = .ok text → P text.toList)
    (htexts : members.mapM render = .ok texts) : ∀ part ∈ texts.map String.toList, P part := by
  intro part hpart
  obtain ⟨text, htext, rfl⟩ := List.mem_map.1 hpart
  obtain ⟨a, ha, hrender⟩ := Outcome.exists_of_mem_mapM htexts htext
  exact hmembers a ha text hrender

/-- Members whose texts join to the same text agree in whatever the text of a member determines, if
no such text is empty or holds the delimiter. -/
theorem map_eq_map_of_joined_eq {feature : α → γ} {delimiter joined : String} {sep : Char}
    (hdelimiter : delimiter.toList = [sep])
    (hmembers : ∀ a ∈ members, ∀ text, render a = .ok text →
      text.toList ≠ [] ∧ sep ∉ text.toList)
    (hothers : ∀ a ∈ others, ∀ text, render a = .ok text →
      text.toList ≠ [] ∧ sep ∉ text.toList)
    (hfeature : ∀ a ∈ members, ∀ b ∈ others, ∀ text,
      render a = .ok text → render b = .ok text → feature a = feature b)
    (hjoined : (members.mapM render).map (String.intercalate delimiter) = .ok joined)
    (hsame : (others.mapM render).map (String.intercalate delimiter) = .ok joined) :
    members.map feature = others.map feature := by
  obtain ⟨texts, htexts, htext⟩ := Outcome.map_eq_ok_iff.1 hjoined
  obtain ⟨texts', htexts', htext'⟩ := Outcome.map_eq_ok_iff.1 hsame
  have hlists := congrArg String.toList (htext.trans htext'.symm)
  rw [String.toList_intercalate, String.toList_intercalate, hdelimiter] at hlists
  have hparts := eq_of_intercalate_eq (parts_of_mapM hmembers htexts)
    (parts_of_mapM hothers htexts') hlists
  obtain rfl : texts = texts' :=
    List.map_injective_iff.2 (fun _ _ => String.toList_inj.1) hparts
  exact Outcome.map_eq_map_of_mapM_eq hfeature htexts htexts'

end Joined

/-! ### Operations -/

/-- The text of an operation is its name, an equals sign and the text of its options. -/
theorem Operation.toList_of_render {o : Operation} {text : String} (h : o.render = .ok text) :
    ∃ options, o.options.render = .ok options ∧
      text.toList = o.name.toList ++ '=' :: options.toList := by
  obtain ⟨options, hoptions, rfl⟩ := Outcome.map_eq_ok_iff.1 h
  exact ⟨options, hoptions, by simp⟩

/-- The text of a legible operation is not empty and holds no reserved character. -/
theorem Operation.Legible.text {o : Operation} (ho : o.Legible) {text : String}
    (h : o.render = .ok text) : text.toList ≠ [] ∧ ∀ c ∈ reservedChars, c ∉ text.toList := by
  obtain ⟨options, hoptions, htext⟩ := Operation.toList_of_render h
  refine ⟨by simp [htext], ?_⟩
  intro c hreserved hc
  rw [htext, List.mem_append, List.mem_cons] at hc
  rcases hc with hc | rfl | hc
  · exact (ho.name c hc).1 hreserved
  · exact absurd hreserved (by decide)
  · exact ho.options options hoptions c hc hreserved

/-- Legible operations with the same text have the same outline: the name ends at the first equals
sign, whatever the options hold. -/
theorem Operation.outline_eq_of_render_eq {o p : Operation} (ho : o.Legible) (hp : p.Legible)
    {text : String} (hotext : o.render = .ok text) (hptext : p.render = .ok text) :
    o.outline = p.outline := by
  obtain ⟨options, hoptions, htext⟩ := Operation.toList_of_render hotext
  obtain ⟨others, hothers, hsame⟩ := Operation.toList_of_render hptext
  rw [htext] at hsame
  obtain ⟨hname, htexts⟩ := eq_of_append_cons_eq (fun h => (ho.name '=' h).2 rfl)
    (fun h => (hp.name '=' h).2 rfl) hsame
  unfold outline
  rw [hoptions, hothers, String.toList_inj.1 hname, String.toList_inj.1 htexts]

/-! ### Chains -/

/-- The text of a legible chain holds no reserved character but commas, and it is empty only if the
chain is. -/
theorem Operation.renderChain_text {operations : List Operation} {chain : String}
    (hlegible : ∀ o ∈ operations, o.Legible) (h : renderChain operations = .ok chain) :
    (∀ c ∈ reservedChars, c ≠ ',' → c ∉ chain.toList) ∧
      (operations ≠ [] → chain.toList ≠ []) := by
  obtain ⟨texts, htexts, rfl⟩ := Outcome.map_eq_ok_iff.1 h
  have hparts : ∀ part ∈ texts.map String.toList,
      part ≠ [] ∧ ∀ c ∈ reservedChars, c ∉ part :=
    parts_of_mapM (fun o ho text htext => (hlegible o ho).text htext) htexts
  rw [String.toList_intercalate]
  constructor
  · intro c hreserved hcomma
    exact notMem_intercalate hcomma fun part hpart => (hparts part hpart).2 c hreserved
  · intro hne hnil
    have hnone := intercalate_eq_nil (fun part hpart => (hparts part hpart).1) hnil
    have hlength := (Outcome.mapM_eq_ok_iff.1 htexts).length_eq
    rw [List.map_eq_nil_iff] at hnone
    rw [hnone, List.length_nil, List.length_eq_zero_iff] at hlength
    exact hne hlength

/-- Legible chains with the same text have the same outlines: they are cut at the commas. -/
theorem Operation.outlines_eq_of_renderChain_eq {operations others : List Operation}
    {chain : String} (hlegible : ∀ o ∈ operations, o.Legible) (hothers : ∀ o ∈ others, o.Legible)
    (hchain : renderChain operations = .ok chain) (hsame : renderChain others = .ok chain) :
    operations.map outline = others.map outline := by
  have hcomma : ',' ∈ reservedChars := by decide
  refine map_eq_map_of_joined_eq rfl ?_ ?_ ?_ hchain hsame
  · intro o ho text htext
    exact ⟨((hlegible o ho).text htext).1, ((hlegible o ho).text htext).2 ',' hcomma⟩
  · intro o ho text htext
    exact ⟨((hothers o ho).text htext).1, ((hothers o ho).text htext).2 ',' hcomma⟩
  · intro o ho p hp text hotext hptext
    exact outline_eq_of_render_eq (hlegible o ho) (hothers p hp) hotext hptext

/-! ### Stages -/

/-- The text of some pads is each label between brackets. -/
theorem toList_padsText (pads : List String) :
    (padsText pads).toList = bracketed '[' ']' (pads.map String.toList) := by
  simp [padsText, padText, bracketed, List.flatMap_map]

/-- The labels of a legible stage hold no reserved character. -/
theorem Stage.Legible.notMem_label {s : Stage} (hs : s.Legible) {pads : List String}
    (hpads : pads ⊆ s.inputPads ++ s.outputPads) {c : Char} (hc : c ∈ reservedChars) :
    ∀ label ∈ pads.map String.toList, c ∉ label := by
  intro label hlabel hmem
  obtain ⟨pad, hpad, rfl⟩ := List.mem_map.1 hlabel
  obtain ⟨-, hunreserved⟩ := (padReport_valid_iff pad).1 (hs.labels pad (hpads hpad))
  obtain ⟨hcomma, hsemicolon, hleft, hright⟩ := hunreserved c hmem
  rcases mem_reservedChars_iff.1 hc with h | h | h | h
  · exact hcomma h
  · exact hsemicolon h
  · exact hleft h
  · exact hright h

/-- The text of a stage is that of its chain between those of its pads. -/
theorem Stage.toList_of_render {s : Stage} {text : String} (h : s.render = .ok text) :
    ∃ chain, Operation.renderChain s.operations = .ok chain ∧
      text.toList = bracketed '[' ']' (s.inputPads.map String.toList) ++
        (chain.toList ++ bracketed '[' ']' (s.outputPads.map String.toList)) := by
  obtain ⟨chain, hchain, rfl⟩ := Outcome.map_eq_ok_iff.1 h
  refine ⟨chain, hchain, ?_⟩
  rw [String.toList_append, String.toList_append, toList_padsText, toList_padsText,
    List.append_assoc]

/-- The text of a legible stage is not empty and holds no semicolon. -/
theorem Stage.Legible.text {s : Stage} (hs : s.Legible) {text : String}
    (h : s.render = .ok text) : text.toList ≠ [] ∧ ';' ∉ text.toList := by
  obtain ⟨chain, hchain, htext⟩ := Stage.toList_of_render h
  obtain ⟨hreserved, hne⟩ := Operation.renderChain_text hs.operations hchain
  have hsemicolon : ';' ∈ reservedChars := by decide
  have hins : ';' ∉ bracketed '[' ']' (s.inputPads.map String.toList) :=
    notMem_bracketed (by decide) (by decide)
      (hs.notMem_label (List.subset_append_left _ s.outputPads) hsemicolon)
  have houts : ';' ∉ bracketed '[' ']' (s.outputPads.map String.toList) :=
    notMem_bracketed (by decide) (by decide)
      (hs.notMem_label (List.subset_append_right s.inputPads _) hsemicolon)
  rw [htext]
  constructor
  · intro hnil
    rw [List.append_eq_nil_iff, List.append_eq_nil_iff] at hnil
    exact hne hs.nonempty hnil.2.1
  · simp only [List.mem_append, not_or]
    exact ⟨hins, hreserved ';' hsemicolon (by decide), houts⟩

/-- Legible stages with the same text have the same outline: the input pads are the brackets before
the chain and the output pads those after it. -/
theorem Stage.outline_eq_of_render_eq {s t : Stage} (hs : s.Legible) (ht : t.Legible)
    {text : String} (hstext : s.render = .ok text) (httext : t.render = .ok text) :
    s.outline = t.outline := by
  obtain ⟨chain, hchain, htext⟩ := Stage.toList_of_render hstext
  obtain ⟨other, hother, hsame⟩ := Stage.toList_of_render httext
  obtain ⟨hreserved, hne⟩ := Operation.renderChain_text hs.operations hchain
  obtain ⟨hreserved', hne'⟩ := Operation.renderChain_text ht.operations hother
  have hleft : '[' ∈ reservedChars := by decide
  have hright : ']' ∈ reservedChars := by decide
  have hbracket : '[' ∉ chain.toList := hreserved '[' hleft (by decide)
  have hbracket' : '[' ∉ other.toList := hreserved' '[' hleft (by decide)
  -- neither chain is empty, so what follows the input pads begins with a character of the chain
  have hhead : ∀ {chain rest : List Char}, chain ≠ [] → '[' ∉ chain →
      (chain ++ rest).head? ≠ some '[' := by
    intro chain rest hne hnotMem hhead
    rw [List.head?_append_of_ne_nil _ hne] at hhead
    exact hnotMem (List.mem_of_head? hhead)
  rw [htext] at hsame
  obtain ⟨hins, hrest⟩ := eq_of_bracketed_append_eq
    (hs.notMem_label (List.subset_append_left _ s.outputPads) hright)
    (ht.notMem_label (List.subset_append_left _ t.outputPads) hright)
    (hhead (hne hs.nonempty) hbracket) (hhead (hne' ht.nonempty) hbracket') hsame
  obtain ⟨hchains, houtTexts⟩ := eq_of_append_bracketed_eq hbracket hbracket' hrest
  obtain ⟨houts, -⟩ := eq_of_bracketed_append_eq
    (hs.notMem_label (List.subset_append_right s.inputPads _) hright)
    (ht.notMem_label (List.subset_append_right t.inputPads _) hright)
    (s := []) (t := []) (by simp) (by simp) (by rw [houtTexts])
  obtain rfl := String.toList_inj.1 hchains
  have hlabels : ∀ {pads others : List String},
      pads.map String.toList = others.map String.toList → pads = others :=
    fun h => List.map_injective_iff.2 (fun _ _ => String.toList_inj.1) h
  unfold outline
  rw [hlabels hins, hlabels houts,
    Operation.outlines_eq_of_renderChain_eq hs.operations ht.operations hchain hother]

/-! ### Graphs -/

namespace Graph

/-- Legible graphs with the same filter graph have stages with the same outlines: they are cut at
the semicolons. -/
theorem stageOutlines_eq_of_filterText_eq {g h : Graph} (hg : g.Legible) (hh : h.Legible)
    {filters : String} (hfilters : g.filterText = .ok filters)
    (hsame : h.filterText = .ok filters) :
    g.stages.map Stage.outline = h.stages.map Stage.outline := by
  refine map_eq_map_of_joined_eq rfl ?_ ?_ ?_ hfilters hsame
  · intro s hs text htext
    exact (hg.stages s hs).text htext
  · intro s hs text htext
    exact (hh.stages s hs).text htext
  · intro s hs t ht text hstext httext
    exact Stage.outline_eq_of_render_eq (hg.stages s hs) (hh.stages t ht) hstext httext

/-- In a legible graph the first output is not a map flag. -/
theorem Legible.head?_outputPaths {g : Graph} (hg : g.Legible) :
    (g.outputs.map Stream.path).head? ≠ some "-map" := by
  rw [List.head?_map]
  intro h
  obtain ⟨s, hs, hpath⟩ := Option.map_eq_some_iff.1 h
  exact hg.firstOutput s hs hpath

/-- Equal arguments have equal sections: the sections are told apart by their flags. -/
theorem sections_eq_of_argumentsAround_eq {g h : Graph} (hg : g.Legible) (hh : h.Legible)
    {filters others : String} (hargs : g.argumentsAround filters = h.argumentsAround others) :
    g.inputs.map Stream.path = h.inputs.map Stream.path ∧ filters = others ∧
      g.mappedPads = h.mappedPads ∧ g.outputs.map Stream.path = h.outputs.map Stream.path := by
  have hsections : ∀ (k : Graph) (text : String), k.argumentsAround text =
      (k.inputs.map Stream.path).flatMap (fun path => ["-i", path]) ++
        ("-filter_complex" :: text ::
          ((k.mappedPads.map padText).flatMap (fun pad => ["-map", pad]) ++
            k.outputs.map Stream.path)) := by
    intro k text
    simp [argumentsAround, List.flatMap_map]
  rw [hsections, hsections] at hargs
  obtain ⟨hins, hrest⟩ := eq_of_flagged_append_eq (by simp) (by simp) hargs
  obtain ⟨hfilters, htail⟩ : filters = others ∧ _ = _ := by simpa using hrest
  obtain ⟨hmaps, houts⟩ :=
    eq_of_flagged_append_eq hg.head?_outputPaths hh.head?_outputPaths htail
  have hpadText : Function.Injective padText := by
    intro p q hpq
    simpa [padText, String.toList_inj] using congrArg String.toList hpq
  exact ⟨hins, hfilters, List.map_injective_iff.2 hpadText hmaps, houts⟩

/-- **Commands are uniquely readable.** Legible graphs that compile to the same arguments have the
same outline. -/
theorem outline_eq_of_arguments_eq {g h : Graph} (hg : g.Legible) (hh : h.Legible)
    {arguments : List String} (hargs : g.arguments = .ok arguments)
    (hsame : h.arguments = .ok arguments) : g.outline = h.outline := by
  rw [arguments_lenient] at hargs hsame
  obtain ⟨filters, hfilters, rfl⟩ := Outcome.map_eq_ok_iff.1 hargs
  obtain ⟨others, hothers, hsections⟩ := Outcome.map_eq_ok_iff.1 hsame
  obtain ⟨hins, rfl, hmaps, houts⟩ := sections_eq_of_argumentsAround_eq hg hh hsections.symm
  unfold outline
  rw [hins, hmaps, houts, stageOutlines_eq_of_filterText_eq hg hh hfilters hothers]

/-- A graph that fades a video in, with keyed options. -/
def fadeGraph : Graph :=
  [.stream (.reading "talk.mp4" "talk"),
    .stage {
      name := "opening"
      inputPads := ["0:v"]
      outputPads := ["out"]
      operations := [{ name := "fade", options := .payload (.keyed [("t", .text "in")]) }] },
    .stream (.writing "faded.mp4" "" (some ["out"]))]

/-- The same graph with raw options, without the names and in another order. -/
def rawFadeGraph : Graph :=
  [.stream (.writing "faded.mp4" "" (some ["out"])),
    .stage {
      inputPads := ["0:v"]
      outputPads := ["out"]
      operations := [{ name := "fade", options := .payload (.raw "t=in") }] },
    .stream (.reading "talk.mp4")]

/-- Both graphs are legible, and so they have the same outline as their arguments are the same. -/
theorem outline_fadeGraph :
    fadeGraph.Legible ∧ rawFadeGraph.Legible ∧ fadeGraph.arguments = rawFadeGraph.arguments ∧
      fadeGraph.outline = rawFadeGraph.outline := by
  have hoperation : ∀ payload : Payload, payload.render = "t=in" →
      Operation.Legible { name := "fade", options := .payload payload } := by
    intro payload hrender
    have hname : "fade".toList.all fun c => c ∉ reservedChars ∧ c ≠ '=' := by decide
    have hoptions : "t=in".toList.all fun c => c ∉ reservedChars := by decide
    refine ⟨by simpa only [List.all_eq_true, decide_eq_true_iff] using hname, ?_⟩
    intro text htext
    obtain rfl : payload.render = text := Except.ok.inj htext
    rw [hrender]
    simpa only [List.all_eq_true, decide_eq_true_iff] using hoptions
  have hkeyed : fadeGraph.Legible := by
    refine ⟨?_, by decide⟩
    intro s hs
    obtain rfl := List.mem_singleton.1 hs
    exact ⟨by decide, by decide, List.forall_mem_singleton.2 (hoperation _ rfl)⟩
  have hraw : rawFadeGraph.Legible := by
    refine ⟨?_, by decide⟩
    intro s hs
    obtain rfl := List.mem_singleton.1 hs
    exact ⟨by decide, by decide, List.forall_mem_singleton.2 (hoperation _ rfl)⟩
  have harguments : fadeGraph.arguments = .ok
      ["-i", "talk.mp4", "-filter_complex", "[0:v]fade=t=in[out]", "-map", "[out]", "faded.mp4"] :=
    rfl
  exact ⟨hkeyed, hraw, rfl, outline_eq_of_arguments_eq hkeyed hraw harguments rfl⟩

end Graph

end FilterGraph
