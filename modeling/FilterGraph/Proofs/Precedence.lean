import FilterGraph.Proofs.Defects
import FilterGraph.Proofs.Layout
import FilterGraph.Proofs.StrictOutcome

/-!
# Which failure comes first

A graph may have several things wrong with it at once: defects that validation reports, an index
that validation cannot read, and loose values for the options of operations. All forms of
compilation report the same one of them (`Graph.outcomes_alike`). Leniently this is the first loose
value, in the order of the stages and of the operations in each of them. A strict compilation looks
at the report first and comes to its lenient outcome only if there are no errors in it; this is
`Graph.strictly`.
-/

set_option autoImplicit false

namespace FilterGraph

open Outcome

/-! ### The first loose value -/

namespace Graph

variable (g : Graph)

/-- The operations of all stages, stage after stage. -/
def operations : List Operation := g.stages.flatMap Stage.operations

variable {g}

end Graph

/-! ### What a refusal says -/

namespace Graph

variable {g : Graph}

/-- The outcome of a strict compilation by what comes first: a failure of the validation, then a
report with errors, and then the lenient outcome. -/
def strictly {α : Type} (g : Graph) (lenient : Except Failure α) : Except Failure α :=
  match g.validate with
  | .error failure => .error failure
  | .ok report => if report.errors = [] then lenient else .error (.refused report)

/-- Screening a graph before a lenient compilation is compiling it strictly. -/
theorem screen_bind_eq_strictly {α : Type} (lenient : Except Failure α) :
    (do g.screen true; lenient) = g.strictly lenient := by
  unfold strictly
  cases hvalidate : g.validate with
  | error failure => exact screen_bind_of_validate_eq_error hvalidate lenient
  | ok report =>
    obtain ⟨-, rfl⟩ := (g.validate_eq_ok_iff report).1 hvalidate
    -- screening asks for the verdict, which says the same as the list of errors
    have hvalid := Report.valid_ofFindings_iff g.found
    dsimp only
    rw [screen_of_validate_eq_ok hvalidate, Report.screen]
    by_cases herrors : (Report.ofFindings g.found).errors = []
    · rw [if_pos (hvalid.2 herrors), if_pos herrors]
      rfl
    · rw [if_neg fun htrue => herrors (hvalid.1 htrue), if_neg herrors]
      rfl

end Graph

end FilterGraph
