import FilterGraph.Proofs.Accepted
import FilterGraph.Proofs.CommandWords

/-!
# The words of the map flags

Each map flag quotes its pad. The words of the flags are the map arguments of the command exactly
when no mapped label holds a quote (`Graph.words_mapFlags_iff`): a quote in a label ends the quoted
text too early, and no word of any text holds a quote. Nothing else about a label matters here.
Validation does not look for quotes, so for every label with a quote that can be written there is an
accepted graph whose map flags are read as other arguments (`Graph.misread_relayGraph`).
-/

set_option autoImplicit false

namespace FilterGraph.Command

/-- Quotes only delimit: a word holds no quote if what has been begun of it holds none. -/
theorem quote_notMem_of_splitWords {quoted : Bool} {begun : Option (List Char)}
    {text : List Char} {words : List (List Char)}
    (hwords : splitWords quoted begun text = some words) (hbegun : '\'' ∉ begun.getD []) :
    ∀ w ∈ words, '\'' ∉ w := by
  induction text generalizing quoted begun words with
  | nil =>
    cases quoted with
    | true => simp [splitWords] at hwords
    | false =>
      obtain rfl : begun.toList = words := by simpa [splitWords] using hwords
      cases begun with
      | none => simp
      | some word => simpa using hbegun
  | cons c rest ih =>
    -- a character that is no quote may be added to the word that has been begun
    have hgrown : c ≠ '\'' → '\'' ∉ (some (begun.getD [] ++ [c])).getD [] := by
      intro hc
      simpa [hbegun] using hc.symm
    cases quoted with
    | true =>
      rw [splitWords] at hwords
      split at hwords
      · exact ih hwords hbegun
      · rename_i hc
        exact ih hwords (hgrown hc)
    | false =>
      rw [splitWords] at hwords
      split at hwords
      · obtain ⟨others, hothers, rfl⟩ := Option.map_eq_some_iff.1 hwords
        have htail := ih hothers (by simp)
        intro w hw
        rcases List.mem_append.1 hw with hw | hw
        · cases begun with
          | none => simp at hw
          | some word =>
            obtain rfl : w = word := by simpa using hw
            exact hbegun
        · exact htail w hw
      · split at hwords
        · exact ih hwords hbegun
        · rename_i hc
          exact ih hwords (hgrown hc)

/-- No word of a text holds a quote. -/
theorem quote_notMem_of_words? {text : String} {words : List String}
    (h : words? text = some words) : ∀ w ∈ words, '\'' ∉ w.toList := by
  obtain ⟨chars, hchars, rfl⟩ := Option.map_eq_some_iff.1 h
  have hfree := quote_notMem_of_splitWords hchars (by simp)
  simpa using hfree

end FilterGraph.Command

namespace FilterGraph.Graph

open FilterGraph.Command

variable (g : Graph)

/-- The map flags of the command and their values, as arguments. -/
def mapArguments : List String := g.mappedPads.flatMap fun pad => ["-map", padText pad]

/-- The map arguments as characters, two for each mapped pad: the flag and the label in brackets. -/
theorem map_toList_mapArguments : g.mapArguments.map String.toList =
    (g.mappedPads.map fun pad => (padText pad).toList).flatMap fun v => ["-map".toList, v] := by
  simp [mapArguments, List.flatMap_map, List.map_flatMap]

/-- In the arguments of the command, the map arguments stand after the input flags and the filter
graph, two for each mapped pad. -/
theorem mapArguments_eq_take {strict : Bool} {arguments : List String}
    (h : g.arguments strict = .ok arguments) :
    (arguments.drop (2 * g.inputs.length + 2)).take (2 * g.mappedPads.length) =
      g.mapArguments := by
  obtain ⟨_, -, hcompiled⟩ := Outcome.bind_eq_ok_iff.1 h
  obtain ⟨filters, -, rfl⟩ := Outcome.map_eq_ok_iff.1 hcompiled
  have hbefore : (g.inputs.flatMap (fun s => ["-i", s.path]) ++
      ["-filter_complex", filters]).length = 2 * g.inputs.length + 2 := by
    simp [List.length_flatMap, Nat.mul_comm]
  have hmaps : g.mapArguments.length = 2 * g.mappedPads.length := by
    simp [mapArguments, List.length_flatMap, Nat.mul_comm]
  unfold argumentsAround
  rw [List.append_assoc, ← hbefore, List.drop_left, ← hmaps]
  exact List.take_left

/-- Without quotes in the labels, the words of the map flags are the map arguments. -/
theorem splitWords_mapFlags (hpads : ∀ pad ∈ g.mappedPads, '\'' ∉ pad.toList) :
    splitWords false none g.mapFlags.toList = some (g.mapArguments.map String.toList) := by
  have hvalues : ∀ v ∈ g.mappedPads.map (fun pad => (padText pad).toList), '\'' ∉ v := by
    intro v hv
    obtain ⟨pad, hpad, rfl⟩ := List.mem_map.1 hv
    exact quote_notMem_padText (hpads pad hpad)
  have hflag : IsBare "-map".toList := by decide
  have hapart := IsApart.nil.flags (by decide) hflag _ hvalues none
  rw [List.append_nil, ← toList_mapFlags, ← map_toList_mapArguments] at hapart
  simpa using hapart

/-- If the words of the map flags are the map arguments, then no mapped label holds a quote. -/
theorem quote_notMem_of_words_mapFlags (h : words? g.mapFlags = some g.mapArguments) :
    ∀ pad ∈ g.mappedPads, '\'' ∉ pad.toList := by
  intro pad hpad hquote
  have hvalue : padText pad ∈ g.mapArguments := List.mem_flatMap.2 ⟨pad, hpad, by simp⟩
  have hfree := quote_notMem_of_words? h _ hvalue
  exact hfree (by simp [padText, hquote])

/-- **When map flags are read as they are meant.** Whether a graph is accepted or not, the words of
its map flags are its map arguments exactly when no mapped label holds a quote; and the map
arguments are what the arguments of the command hold for the mapped pads. -/
theorem words_mapFlags_iff :
    (words? g.mapFlags = some g.mapArguments ↔ ∀ pad ∈ g.mappedPads, '\'' ∉ pad.toList) ∧
      ∀ strict arguments, g.arguments strict = .ok arguments →
        (arguments.drop (2 * g.inputs.length + 2)).take (2 * g.mappedPads.length) =
          g.mapArguments := by
  refine ⟨⟨g.quote_notMem_of_words_mapFlags, ?_⟩, fun _ _ => g.mapArguments_eq_take⟩
  intro hpads
  unfold words?
  rw [g.splitWords_mapFlags hpads]
  simp [Function.comp_def]

/-- The map flag of the graph that writes a title is read as it is meant. -/
theorem words_mapFlags_titleGraph :
    (∀ pad ∈ titleGraph.mappedPads, '\'' ∉ pad.toList) ∧
      words? titleGraph.mapFlags = some ["-map", "[out]"] := by
  have hpads : ∀ pad ∈ titleGraph.mappedPads, '\'' ∉ pad.toList := by decide
  exact ⟨hpads, titleGraph.words_mapFlags_iff.1.2 hpads⟩

/-- Every label with a quote that can be written is accepted, and misread. -/
theorem misread_relayGraph {label : String} (hlabel : IsLabel label)
    (hquote : '\'' ∈ label.toList) :
    (relayGraph label).Accepted ∧
      words? (relayGraph label).mapFlags ≠ some (relayGraph label).mapArguments := by
  have hne : label ≠ "0:v" := by
    rintro rfl
    exact absurd hquote (by decide)
  refine ⟨accepted_relayGraph hlabel hne, ?_⟩
  intro hwords
  have hmapped : label ∈ (relayGraph label).mappedPads := List.mem_singleton.2 rfl
  exact quote_notMem_of_words_mapFlags _ hwords label hmapped hquote

/-- The map flag of an accepted graph is read as a flag with another value and two arguments more,
the first of which is a flag of its own. -/
theorem misread_relayGraph_flag :
    (relayGraph "v' -y 'w").Accepted ∧
      words? (relayGraph "v' -y 'w").mapFlags = some ["-map", "[v", "-y", "w]"] ∧
      words? (relayGraph "v' -y 'w").mapFlags ≠ some (relayGraph "v' -y 'w").mapArguments := by
  have hlabel : IsLabel "v' -y 'w" := (padReport_valid_iff "v' -y 'w").1 rfl
  obtain ⟨haccepted, hmisread⟩ := misread_relayGraph hlabel (by decide)
  exact ⟨haccepted, rfl, hmisread⟩

end FilterGraph.Graph
