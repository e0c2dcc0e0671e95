/-!
# Validation reports

A report collects the errors and the warnings of a validation in the order in which they are found,
and says whether what was validated is valid. The three are kept apart: adding an error makes a
report invalid, merging takes over the verdict of the other report, and a report may be made with
any verdict.
-/

set_option autoImplicit false

namespace FilterGraph

/-- The outcome of a validation. -/
structure Report where
  /-- Whether what was validated may be used. -/
  valid : Bool := true
  /-- The errors in the order found. -/
  errors : List String := []
  /-- The warnings in the order found. -/
  warnings : List String := []
  deriving DecidableEq

namespace Report

/-- The report with one more error, which makes it invalid. -/
def addError (r : Report) (message : String) : Report :=
  { r with errors := r.errors ++ [message], valid := false }

/-- The report with one more warning. -/
def addWarning (r : Report) (message : String) : Report :=
  { r with warnings := r.warnings ++ [message] }

/-- The report followed by another one; it is valid when both are. -/
def merge (r other : Report) : Report where
  valid := r.valid && other.valid
  errors := r.errors ++ other.errors
  warnings := r.warnings ++ other.warnings

/-- What a refusal on the ground of a report says: its errors, or a general sentence if the text of
the errors is empty. -/
def refusal (r : Report) : String :=
  let text := String.intercalate "; " r.errors
  if text = "" then "Filter graph failed validation" else text

/-- Merging the empty report into a report changes nothing. -/
@[simp] theorem merge_empty (r : Report) : r.merge {} = r := by
  cases r; simp [merge]

/-- Merging a report into the empty report gives the report. -/
@[simp] theorem empty_merge (r : Report) : merge {} r = r := by
  cases r; simp [merge]

/-- Merging is associative. -/
theorem merge_assoc (r s t : Report) : (r.merge s).merge t = r.merge (s.merge t) := by
  simp [merge, Bool.and_assoc]

end Report

end FilterGraph
