import FilterGraph.Proofs.WiringMessages
import Mathlib.Data.Nat.Digits.Defs

/-!
# The range of input indices

A label is an input specifier exactly if it is a row of digits, alone or with a selection after it,
and with or without one line feed at its end; and it has only one such row. What the row is worth by
position in base ten is the index of the input. About the wiring of such a label, if it is taken in
and no stage outputs it, validation finds that the index is not below the number of inputs, if that
is so, and nothing else (`Pad.Uses.foundOn_of_specifies`).

So a report has the message about the range of the index exactly if the index is out of range
(`Pad.specifies_and_range`). But there need not be a report: when another label has an index with
too many digits to be read, validation fails, and nothing is said about the index that is out of
range (`Graph.rangeUntold_crowdedGraph`).
-/

set_option autoImplicit false

namespace FilterGraph

namespace Text

/-- The values of the digits of a row, the last one first. -/
def digitValues (digits : List Char) : List Nat := digits.reverse.filterMap digitValue?

/-- The number that a row of digits of any scripts writes is its value by position in base ten. -/
theorem numberOfDigits_eq_ofDigits {digits : List Char}
    (hdigits : ∀ c ∈ digits, isDigit c = true) :
    numberOfDigits digits = Nat.ofDigits 10 (digitValues digits) := by
  induction digits using List.reverseRecOn with
  | nil => rfl
  | append_singleton digits c ih =>
    obtain ⟨hinit, hlast⟩ := List.forall_mem_append.1 hdigits
    obtain ⟨value, hvalue⟩ := Option.isSome_iff_exists.1 (hlast c (List.mem_singleton_self c))
    have hvalues : digitValues (digits ++ [c]) = value :: digitValues digits := by
      unfold digitValues
      rw [List.reverse_concat, List.filterMap_cons_some hvalue]
    rw [numberOfDigits_append_singleton, hvalues, Nat.ofDigits_cons, ih hinit, hvalue,
      Option.getD_some, Nat.add_comm]

end Text

namespace Pad

/-- About the wiring of a label that names an input, is taken in and is no stage output, it is found
whether its index is in range. -/
theorem Uses.foundOn_of_specifies (u : Uses String) {digits : List Char} {label : String}
    (hdigits : Specifies digits label) (hconsumed : label ∈ u.consumed)
    (hproduced : label ∉ u.produced) :
    u.foundOn label =
      if u.inputs ≤ Text.numberOfDigits digits then
        [.defect (.beyondInputs label (Text.numberOfDigits digits) u.inputs)]
      else [] := by
  have hnamed : namedInput? label = some (Text.numberOfDigits digits) := by
    unfold namedInput?
    rw [(specifierDigits?_eq_some_iff label digits).2 hdigits]
    rfl
  unfold foundOn consumptionFound
  rw [if_neg hproduced, if_pos hconsumed, if_neg hproduced, hnamed]
  rfl

/-- The message about the range of an index stands in a report once if the index is out of range,
and otherwise not at all. -/
theorem onceIff_beyondInputs {g : Graph} {report : Report} (h : g.validate = .ok report)
    {digits : List Char} {pad : String} (hdigits : Specifies digits pad)
    (hconsumed : pad ∈ g.consumedPads) (hproduced : pad ∉ g.producedPads) (index inputs : Nat) :
    OnceIff report.errors (Defect.beyondInputs pad index inputs).message
      (index = Nat.ofDigits 10 (Text.digitValues digits) ∧ inputs = g.inputs.length ∧
        inputs ≤ index) := by
  refine Graph.onceIff_errors (d := .beyondInputs pad index inputs) h rfl ?_
  rw [g.uses.foundOn_of_specifies hdigits hconsumed hproduced,
    ← Text.numberOfDigits_eq_ofDigits hdigits.2.1]
  unfold Graph.uses
  constructor
  · intro hmem
    obtain ⟨hrange, hfound⟩ := List.mem_ite_nil_right.1 hmem
    cases List.mem_singleton.1 hfound
    exact ⟨rfl, rfl, hrange⟩
  · rintro ⟨rfl, rfl, hrange⟩
    exact List.mem_ite_nil_right.2 ⟨hrange, List.mem_singleton_self _⟩

/-- **Input specifiers are recognized and read exactly.**

* A label is recognized exactly if it has the form of an input specifier.
* It has that form with one row of digits only.
* Take any graph that takes in the label and in which no stage outputs it, and let the row have few
  enough digits to be read. If all other indices that have to be read can be too, there is a report
  on the graph, and it has the message about the range of an index of the label once, with the value
  of the row by position in base ten for the index, if the graph has no more inputs than that; and
  it has no other message about the range of an index of the label. If not, validation fails at
  another label. -/
theorem specifies_and_range (pad : String) :
    (isSpecifier pad = true ↔ ∃ digits, Specifies digits pad) ∧
    (∀ digits others, Specifies digits pad → Specifies others pad → digits = others) ∧
    ∀ digits, Specifies digits pad → digits.length ≤ longestIndex →
      ∀ g : Graph, pad ∈ g.consumedPads → pad ∉ g.producedPads →
        (g.HasReadableIndices → ∃ report, g.validate = .ok report ∧
          ∀ index inputs, OnceIff report.errors (Defect.beyondInputs pad index inputs).message
            (index = Nat.ofDigits 10 (Text.digitValues digits) ∧ inputs = g.inputs.length ∧
              inputs ≤ index)) ∧
        (¬ g.HasReadableIndices → ∃ other ∈ g.consumedPads, other ≠ pad ∧
          other ∉ g.producedPads ∧ ∃ others, Specifies others other ∧
            longestIndex < others.length ∧ g.validate = .error (.longIndex others.length)) := by
  refine ⟨?_, fun digits others hdigits hothers => hdigits.digits_eq hothers, ?_⟩
  · unfold isSpecifier
    simp only [Option.isSome_iff_exists, specifierDigits?_eq_some_iff]
  · intro digits hdigits hshort g hconsumed hproduced
    constructor
    · intro hreadable
      have hreport := (g.validate_eq_ok_iff _).2 ⟨hreadable, rfl⟩
      exact ⟨_, hreport, onceIff_beyondInputs hreport hdigits hconsumed hproduced⟩
    · intro hunreadable
      cases hvalidate : g.validate with
      | ok report => exact absurd ((g.validate_eq_ok_iff report).1 hvalidate).1 hunreadable
      | error failure =>
        obtain ⟨other, hother, hotherProduced, others, hothers, hlong, rfl⟩ :=
          g.exists_of_validate_eq_error hvalidate
        refine ⟨other, hother, ?_, hotherProduced, others, hothers, hlong, rfl⟩
        -- the index of the label itself is short enough to be read
        rintro rfl
        rw [hothers.digits_eq hdigits] at hlong
        omega

end Pad

namespace Graph

/-- A graph with one input whose output takes in a label with a zero in front, digits of two
scripts, a selector with colons, and a line feed at the end. -/
def motleyGraph : Graph :=
  [.stream (.reading "in.mp4"), .stream (.writing "out.mp4" "" (some ["01٤:a::0\n"]))]

/-- The label stands for the input with the index 14, which the graph does not have. -/
theorem specifies_and_range_motleyGraph :
    Pad.Specifies ['0', '1', '٤'] "01٤:a::0\n" ∧ "01٤:a::0\n" ∈ motleyGraph.consumedPads ∧
      "01٤:a::0\n" ∉ motleyGraph.producedPads ∧ motleyGraph.HasReadableIndices ∧
      ∃ report, motleyGraph.validate = .ok report ∧
        report.errors.count (Defect.beyondInputs "01٤:a::0\n" 14 1).message = 1 := by
  have hspecifies : Pad.Specifies ['0', '1', '٤'] "01٤:a::0\n" :=
    (Pad.specifierDigits?_eq_some_iff _ _).1 (by decide)
  have hconsumed : "01٤:a::0\n" ∈ motleyGraph.consumedPads := by decide
  have hproduced : "01٤:a::0\n" ∉ motleyGraph.producedPads := by decide
  have hreadable : motleyGraph.HasReadableIndices := hasReadableIndices_of_short (by decide)
  obtain ⟨-, -, hrange⟩ := Pad.specifies_and_range "01٤:a::0\n"
  obtain ⟨report, hreport, htold⟩ :=
    (hrange _ hspecifies (by decide) motleyGraph hconsumed hproduced).1 hreadable
  exact ⟨hspecifies, hconsumed, hproduced, hreadable, report, hreport,
    (htold 14 1).1 ⟨by decide, by decide, by decide⟩⟩

/-- A graph with one input whose output takes in a label that names its sixth input, and a label of
the given number of ones. -/
def crowdedGraph (count : Nat) : Graph :=
  [.stream (.reading "in.mp4"),
    .stream (.writing "out.mp4" "" (some ["5", String.ofList (List.replicate count '1')]))]

/-- The index of the first label is out of range, but the second label leaves no report to say
so. -/
theorem validate_crowdedGraph {count : Nat} (hcount : longestIndex < count) :
    (crowdedGraph count).validate = .error (.longIndex count) := by
  have hconsumed : (crowdedGraph count).consumedPads =
      ["5", String.ofList (List.replicate count '1')] := rfl
  have hproduced : (crowdedGraph count).producedPads = [] := rfl
  have hspecifies := Pad.specifies_ones (Nat.zero_lt_of_lt hcount)
  have hshort : Pad.HasReadableIndex "5" := .of_short (by decide)
  have hvalidate := (crowdedGraph count).validate_eq_error_of_longIndex (by simp [hconsumed])
    (by simp [hproduced]) hspecifies (by rwa [List.length_replicate]) (by simp [hconsumed, hshort])
  rwa [List.length_replicate] at hvalidate

/-- An index out of range, of few digits and of a label that no stage outputs, is not reported when
another label has one digit more than an index may have. -/
theorem rangeUntold_crowdedGraph :
    Pad.Specifies ['5'] "5" ∧ ['5'].length ≤ longestIndex ∧
      "5" ∈ (crowdedGraph 4301).consumedPads ∧ "5" ∉ (crowdedGraph 4301).producedPads ∧
      (crowdedGraph 4301).inputs.length ≤ Nat.ofDigits 10 (Text.digitValues ['5']) ∧
      ¬ ∃ report, (crowdedGraph 4301).validate = .ok report := by
  refine ⟨(Pad.specifierDigits?_eq_some_iff _ _).1 (by decide), by decide, List.mem_cons_self,
    List.not_mem_nil, by decide, ?_⟩
  rw [validate_crowdedGraph (by decide)]
  exact nofun

end Graph

end FilterGraph
