import FilterGraph.Command
import FilterGraph.Command.Words

/-!
# The words of a command are its arguments

The text of a command and its list of arguments are written by separate definitions. Splitting the
text into words gives the list back (`Graph.words_command`), provided that nothing in the text ends
a word early: paths are not empty and hold neither blanks nor quotes, and what is quoted holds no
quote.

The sections of the text space themselves differently. Input flags end with a blank, while map flags
and paths begin with one. A text that begins like the latter `IsApart`: whatever word has been begun
before it ends there. This is the form in which the sections are put together from the right.
-/

set_option autoImplicit false

namespace FilterGraph.Command

/-! ### Single words -/

/-- A text that stands for itself outside of quotes. -/
def IsBare (s : List Char) : Prop := ∀ c ∈ s, c ≠ ' ' ∧ c ≠ '\''

/-- Whether a text is bare can be decided character by character. -/
instance (s : List Char) : Decidable (IsBare s) :=
  List.decidableBAll (fun c => c ≠ ' ' ∧ c ≠ '\'') s

/-- A blank outside of quotes ends the word that has been begun. -/
theorem splitWords_blank (begun : Option (List Char)) (rest : List Char) :
    splitWords false begun (' ' :: rest) =
      (splitWords false none rest).map (begun.toList ++ ·) := by
  rw [splitWords]
  simp

/-- Bare text continues the word that has been begun. -/
theorem splitWords_bare {s : List Char} (hs : IsBare s) (word rest : List Char) :
    splitWords false (some word) (s ++ rest) = splitWords false (some (word ++ s)) rest := by
  induction s generalizing word with
  | nil => simp
  | cons c s ih =>
    have hc := hs c List.mem_cons_self
    have htail : IsBare s := fun d hd => hs d (List.mem_cons_of_mem c hd)
    rw [List.cons_append, splitWords, if_neg hc.1, if_neg hc.2, Option.getD_some, ih htail,
      List.append_assoc, List.singleton_append]

/-- Bare text after a blank begins a word. -/
theorem splitWords_bare_none {s : List Char} (hne : s ≠ []) (hs : IsBare s) (rest : List Char) :
    splitWords false none (s ++ rest) = splitWords false (some s) rest := by
  cases s with
  | nil => exact absurd rfl hne
  | cons c s =>
    have hc := hs c List.mem_cons_self
    have htail : IsBare s := fun d hd => hs d (List.mem_cons_of_mem c hd)
    rw [List.cons_append, splitWords, if_neg hc.1, if_neg hc.2, splitWords_bare htail]
    rfl

/-- Up to the next quote, quoted text continues the word that has been begun. -/
theorem splitWords_untilQuote {s : List Char} (hs : '\'' ∉ s) (word rest : List Char) :
    splitWords true (some word) (s ++ '\'' :: rest) =
      splitWords false (some (word ++ s)) rest := by
  induction s generalizing word with
  | nil =>
    rw [List.nil_append, splitWords, if_pos rfl, List.append_nil]
  | cons c s ih =>
    -- inside quotes a blank is a character like any other
    have hc : c ≠ '\'' := fun h => hs (h ▸ List.mem_cons_self)
    have htail : '\'' ∉ s := fun h => hs (List.mem_cons_of_mem c h)
    rw [List.cons_append, splitWords, if_neg hc, Option.getD_some, ih htail, List.append_assoc,
      List.singleton_append]

/-- Text between two quotes begins a word, also when it is empty. -/
theorem splitWords_quoted {s : List Char} (hs : '\'' ∉ s) (rest : List Char) :
    splitWords false none ('\'' :: (s ++ '\'' :: rest)) = splitWords false (some s) rest := by
  have hblank : ('\'' : Char) ≠ ' ' := by decide
  rw [splitWords, if_neg hblank, if_pos rfl, Option.getD_none, splitWords_untilQuote hs,
    List.nil_append]

/-! ### Texts that end the word before them -/

/-- The text ends every word before it and then has the given words. -/
def IsApart (text : List Char) (words : Option (List (List Char))) : Prop :=
  ∀ begun, splitWords false begun text = words.map (begun.toList ++ ·)

/-- The end of a command ends the word before it. -/
theorem IsApart.nil : IsApart [] (some []) := by
  intro begun
  simp [splitWords]

/-- A blank ends the word before it, and the words after the blank follow. -/
theorem IsApart.blank (rest : List Char) : IsApart (' ' :: rest) (splitWords false none rest) :=
  fun begun => splitWords_blank begun rest

/-- A flag and a quoted value, each after a blank, are two words. -/
theorem IsApart.flag {flag value rest : List Char} {words : Option (List (List Char))}
    (hne : flag ≠ []) (hflag : IsBare flag) (hvalue : '\'' ∉ value) (hrest : IsApart rest words) :
    IsApart (' ' :: (flag ++ ' ' :: '\'' :: (value ++ '\'' :: rest)))
      (words.map ([flag, value] ++ ·)) := by
  intro begun
  rw [splitWords_blank, splitWords_bare_none hne hflag, splitWords_blank, splitWords_quoted hvalue,
    hrest]
  simp [Function.comp_def]

/-- Flags and quoted values one after the other are so many pairs of words. -/
theorem IsApart.flags {flag rest : List Char} {words : Option (List (List Char))}
    (hne : flag ≠ []) (hflag : IsBare flag) (hrest : IsApart rest words)
    (values : List (List Char)) (hvalues : ∀ value ∈ values, '\'' ∉ value) :
    IsApart
      (values.flatMap (fun value => ' ' :: (flag ++ ' ' :: '\'' :: (value ++ ['\'']))) ++ rest)
      (words.map (values.flatMap (fun value => [flag, value]) ++ ·)) := by
  induction values with
  | nil => simpa using hrest
  | cons value values ih =>
    have htail := ih fun v hv => hvalues v (List.mem_cons_of_mem value hv)
    have hhead := IsApart.flag hne hflag (hvalues value List.mem_cons_self) htail
    simpa [Function.comp_def] using hhead

/-! ### Sections -/

/-- Paths with blanks between them are so many words. -/
theorem splitWords_paths (paths : List (List Char)) (hpaths : ∀ p ∈ paths, p ≠ [] ∧ IsBare p) :
    splitWords false none ([' '].intercalate paths) = some paths := by
  induction paths with
  | nil => rfl
  | cons p paths ih =>
    obtain ⟨hne, hbare⟩ := hpaths p List.mem_cons_self
    have htail := ih fun q hq => hpaths q (List.mem_cons_of_mem p hq)
    cases paths with
    | nil =>
      have h := splitWords_bare_none hne hbare []
      rw [List.append_nil] at h
      simpa [splitWords] using h
    | cons q paths =>
      rw [List.intercalate_cons_cons, List.append_assoc, splitWords_bare_none hne hbare,
        List.singleton_append, splitWords_blank, htail]
      rfl

/-- Flags and bare values with a blank after each are so many pairs of words. -/
theorem splitWords_flags {flag : List Char} (hne : flag ≠ []) (hflag : IsBare flag)
    (values : List (List Char)) (hvalues : ∀ v ∈ values, v ≠ [] ∧ IsBare v) (rest : List Char) :
    splitWords false none (values.flatMap (fun v => flag ++ ' ' :: (v ++ [' '])) ++ rest) =
      (splitWords false none rest).map (values.flatMap (fun v => [flag, v]) ++ ·) := by
  induction values with
  | nil => simp
  | cons v values ih =>
    obtain ⟨hv, hbare⟩ := hvalues v List.mem_cons_self
    have htail := ih fun w hw => hvalues w (List.mem_cons_of_mem v hw)
    simp only [List.flatMap_cons, List.append_assoc, List.cons_append, List.nil_append]
    rw [splitWords_bare_none hne hflag, splitWords_blank, splitWords_bare_none hv hbare,
      splitWords_blank, htail]
    simp [Function.comp_def]

end FilterGraph.Command

namespace FilterGraph.Graph

open FilterGraph.Command

variable (g : Graph)

/-! ### The characters of the sections -/

/-- The flags of the inputs, as characters: for each input the flag, a blank, the path and a
blank. -/
theorem toList_inputFlags : g.inputFlags.toList =
    (g.inputs.map (·.path.toList)).flatMap fun v => "-i".toList ++ ' ' :: (v ++ [' ']) := by
  simp [inputFlags, List.flatMap_map]

/-- The flag of the filter graph, as characters: the flag, a blank and the text between quotes. -/
theorem toList_filterFlag (filters : String) : (filterFlag filters).toList =
    "-filter_complex".toList ++ ' ' :: '\'' :: (filters.toList ++ ['\'']) := by
  have hflag : "-filter_complex '".toList = "-filter_complex".toList ++ [' ', '\''] := rfl
  unfold filterFlag
  rw [String.toList_append, String.toList_append, hflag, List.append_assoc, List.append_assoc]
  rfl

/-- The flags of the mapped pads, as characters: for each pad a blank, the flag, a blank and the
label in brackets between quotes. -/
theorem toList_mapFlags : g.mapFlags.toList =
    (g.mappedPads.map fun pad => (padText pad).toList).flatMap
      fun v => ' ' :: ("-map".toList ++ ' ' :: '\'' :: (v ++ ['\''])) := by
  simp [mapFlags, List.flatMap_map]

/-- The paths of the outputs, as characters: one after the other with blanks between them. -/
theorem toList_outputPaths :
    g.outputPaths.toList = [' '].intercalate (g.outputs.map (·.path.toList)) := by
  simp [outputPaths, Function.comp_def]

/-- The characters of the arguments, section by section. -/
theorem map_toList_argumentsAround (filters : String) :
    (g.argumentsAround filters).map String.toList =
      (g.inputs.map (·.path.toList)).flatMap (fun v => ["-i".toList, v]) ++
        ("-filter_complex".toList :: filters.toList ::
          ((g.mappedPads.map fun pad => (padText pad).toList).flatMap
              (fun v => ["-map".toList, v]) ++
            g.outputs.map (·.path.toList))) := by
  simp [argumentsAround, List.flatMap_map, List.map_flatMap, Function.comp_def]

/-- A quote stands in the text of a pad only where it stands in the label. -/
theorem quote_notMem_padText {pad : String} (h : '\'' ∉ pad.toList) :
    '\'' ∉ (padText pad).toList := by
  simp [padText, h]

/-! ### The command as a whole -/

/-- The words of the command text around a filter graph are the arguments around it. -/
theorem splitWords_commandAround {filters : String} (hquote : '\'' ∉ filters.toList)
    (hpaths : ∀ s ∈ g.inputs ++ g.outputs, s.path ≠ "" ∧ IsBare s.path.toList)
    (hpads : ∀ pad ∈ g.mappedPads, '\'' ∉ pad.toList) :
    splitWords false none (g.commandAround filters).toList =
      some ((g.argumentsAround filters).map String.toList) := by
  have hins : ∀ v ∈ g.inputs.map (·.path.toList), v ≠ [] ∧ IsBare v := by
    intro v hv
    obtain ⟨s, hs, rfl⟩ := List.mem_map.1 hv
    simpa using hpaths s (List.mem_append_left _ hs)
  have houts : ∀ v ∈ g.outputs.map (·.path.toList), v ≠ [] ∧ IsBare v := by
    intro v hv
    obtain ⟨s, hs, rfl⟩ := List.mem_map.1 hv
    simpa using hpaths s (List.mem_append_right _ hs)
  have hvalues : ∀ v ∈ g.mappedPads.map (fun pad => (padText pad).toList), '\'' ∉ v := by
    intro v hv
    obtain ⟨pad, hpad, rfl⟩ := List.mem_map.1 hv
    exact quote_notMem_padText (hpads pad hpad)
  -- what follows the filter graph begins with a blank, whichever of its sections are empty
  have hrest : IsApart (g.mapFlags ++ " " ++ g.outputPaths).toList
      (some ((g.mappedPads.map fun pad => (padText pad).toList).flatMap
        (fun v => ["-map".toList, v]) ++ g.outputs.map (·.path.toList))) := by
    have hpathWords := splitWords_paths _ houts
    have happart := IsApart.blank ([' '].intercalate (g.outputs.map (·.path.toList)))
    rw [hpathWords] at happart
    have hflag : IsBare "-map".toList := by decide
    have hflags := happart.flags (by decide) hflag _ hvalues
    rw [String.toList_append, String.toList_append, toList_mapFlags, toList_outputPaths,
      List.append_assoc]
    exact hflags
  have hinputFlag : IsBare "-i".toList := by decide
  have hfilterFlag : IsBare "-filter_complex".toList := by decide
  have htext : (g.commandAround filters).toList =
      (g.inputs.map (·.path.toList)).flatMap (fun v => "-i".toList ++ ' ' :: (v ++ [' '])) ++
        ("-filter_complex".toList ++ ' ' :: '\'' :: (filters.toList ++ '\'' ::
          (g.mapFlags ++ " " ++ g.outputPaths).toList)) := by
    unfold commandAround
    simp only [String.toList_append, toList_inputFlags, toList_filterFlag, List.append_assoc,
      List.cons_append, List.nil_append]
  rw [htext, splitWords_flags (by decide) hinputFlag _ hins,
    splitWords_bare_none (by decide) hfilterFlag, splitWords_blank, splitWords_quoted hquote,
    hrest, map_toList_argumentsAround]
  rfl

/-- **Text and arguments denote the same command line.** If a graph compiles, no path is empty or
holds a blank or a quote, and neither the filter graph nor a mapped label holds a quote, then the
words of the command text are the arguments. -/
theorem words_command {text filters : String} (hcommand : g.command = .ok text)
    (hfilters : g.filterText = .ok filters)
    (hpaths : ∀ s ∈ g.inputs ++ g.outputs, s.path ≠ "" ∧ IsBare s.path.toList)
    (hquote : '\'' ∉ filters.toList) (hpads : ∀ pad ∈ g.mappedPads, '\'' ∉ pad.toList) :
    ∃ words, g.arguments = .ok words ∧ words? text = some words := by
  have htext : g.commandAround filters = text := by
    rw [command_lenient, hfilters] at hcommand
    exact Except.ok.inj hcommand
  refine ⟨g.argumentsAround filters, ?_, ?_⟩
  · rw [arguments_lenient, hfilters]
    rfl
  · unfold words?
    rw [← htext, g.splitWords_commandAround hquote hpaths hpads]
    simp [Function.comp_def]

/-- A graph that writes a title with blanks into a video. -/
def titleGraph : Graph :=
  [.stream (.reading "talk.mp4"),
    .stage {
      inputPads := ["0:v"]
      outputPads := ["out"]
      operations := [{ name := "drawtext", options := .payload (.raw "text=all is well") }] },
    .stream (.writing "titled.mp4" "" (some ["out"]))]

/-- The title stays in one word. -/
theorem words_titleGraph :
    titleGraph.command = .ok
      "-i talk.mp4 -filter_complex '[0:v]drawtext=text=all is well[out]' -map '[out]' titled.mp4" ∧
    ∃ words, titleGraph.arguments = .ok words ∧ Command.words?
      "-i talk.mp4 -filter_complex '[0:v]drawtext=text=all is well[out]' -map '[out]' titled.mp4" =
        some words := by
  have hcommand : titleGraph.command = .ok
      "-i talk.mp4 -filter_complex '[0:v]drawtext=text=all is well[out]' -map '[out]' titled.mp4" :=
    rfl
  have hfilters : titleGraph.filterText = .ok "[0:v]drawtext=text=all is well[out]" := rfl
  exact ⟨hcommand, words_command titleGraph hcommand hfilters (by decide) (by decide) (by decide)⟩

end FilterGraph.Graph
