import FilterGraph.Proofs.SessionRuns

/-!
# No forged lines in the log

Once escaping is installed, no text that goes through the library can break the lines of its log.
With escaping on, every record of a step of the library is on one line (`isLine_step`); the step
that installs escaping may still announce the settings it has just loaded before it installs
anything, but all other records of that step are on one line too (`isLine_installing`). As escaping
is never turned off, both hold for the whole run (`isOneLine_of_installs`).
-/

set_option autoImplicit false

namespace FilterGraph.Session

open FilterGraph.Log FilterGraph.Text

/-- Whether what a step logs is the library's own choice, and not an entry it is given. -/
def Step.isOwn : Step → Bool
  | .log _ => false
  | _ => true

namespace State

variable [Settings.Loader] {s : State} {r : Record}

/-- Setting up logging with settings that load sets the level last. With escaping on by then, only
the announcement of the loaded settings can be on more than one line. -/
theorem isLine_or_mem_of_configure {fields : Option (Entries Scalar)} {settings : Settings}
    (h : s.effective fields = .ok settings)
    (hescaping : (s.escaping || settings.safeLogging) = true)
    (hr : r ∈ (s.configure fields).records) :
    IsLine r.message.toList ∨ r ∈ s.records (s.loadEntries fields settings) := by
  rw [configure_of_ok h] at hr
  rcases List.mem_append.1 hr with hr | hr
  · exact .inr hr
  · exact .inl (isLine_records hescaping (isPlain_levelEntries settings.logLevel) hr)

/-- With escaping on from the start, all records of setting up logging are on one line. -/
theorem isLine_configure (hescaping : s.escaping = true) {fields : Option (Entries Scalar)}
    (hr : r ∈ (s.configure fields).records) : IsLine r.message.toList := by
  cases h : s.effective fields with
  | error failure =>
    rw [configure_of_error h] at hr
    exact absurd hr List.not_mem_nil
  | ok settings =>
    have hor : (s.escaping || settings.safeLogging) = true := by rw [hescaping, Bool.true_or]
    rcases isLine_or_mem_of_configure h hor hr with hline | hr
    · exact hline
    · exact isLine_records hescaping (isPlain_loadEntries s fields settings) hr

/-- With escaping on from the start, all records of an own step are on one line. -/
theorem isLine_step (hescaping : s.escaping = true) {step : Step} (hown : step.isOwn = true)
    (hr : r ∈ (s.step step).records) : IsLine r.message.toList := by
  have hrun : ∀ {α : Type} {action : Logged α}, action.IsPlain →
      r ∈ (s.run action).records → IsLine r.message.toList := by
    intro α action hplain hr
    rw [run_eq hplain] at hr
    exact isLine_records hescaping hplain hr
  -- only steps that load settings, set a level or go through a graph emit records of the library
  cases step with
  | setVariable name value => exact absurd hr List.not_mem_nil
  | unsetVariable name => exact absurd hr List.not_mem_nil
  | writeEnvFile text => exact absurd hr List.not_mem_nil
  | loadSettings fields => exact absurd hr List.not_mem_nil
  | keptSettings =>
    rw [step, Turn.map] at hr
    cases h : s.effective none with
    | ok settings =>
      rw [keptSettings_of_ok h] at hr
      exact isLine_records hescaping (isPlain_loadEntries s none settings) hr
    | error failure =>
      rw [keptSettings_of_error h] at hr
      exact absurd hr List.not_mem_nil
  | clearCache => exact absurd hr List.not_mem_nil
  | installEscaping => exact absurd hr List.not_mem_nil
  | setLevel text =>
    rw [step, Turn.map, setLevel_eq] at hr
    dsimp only at hr
    exact isLine_records hescaping (isPlain_levelEntries text) hr
  | configure fields => exact isLine_configure hescaping hr
  | log entry => exact absurd hown Bool.false_ne_true
  | compile graph strict => exact hrun (isPlain_command graph strict) hr
  | compileArguments graph strict => exact hrun (isPlain_arguments graph strict) hr
  | annotate graph => exact hrun (isPlain_annotate graph) hr
  | validate graph => exact hrun (isPlain_validate graph) hr

/-- Of the step that installs escaping, only the announcement of loaded settings can be on more than
one line. -/
theorem isLine_installing {step : Step} (hinstalls : s.installs step = true)
    (hr : r ∈ (s.step step).records) (hlogger : r.logger ≠ settingsLogger) :
    IsLine r.message.toList := by
  rcases installs_cases hinstalls with rfl | ⟨fields, settings, rfl, h, hsafe⟩
  · exact absurd hr List.not_mem_nil
  · have hor : (s.escaping || settings.safeLogging) = true := by rw [hsafe, Bool.or_true]
    rw [step, Turn.map] at hr
    rcases isLine_or_mem_of_configure h hor hr with hline | hr
    · exact hline
    · obtain ⟨e, he, hrecord⟩ := exists_of_mem_records (isPlain_loadEntries s fields settings) hr
      obtain ⟨message, -, rfl⟩ := Outcome.map_eq_ok_iff.1 hrecord
      unfold loadEntries at he
      split at he
      · obtain rfl := List.mem_singleton.1 he
        exact absurd rfl hlogger
      · exact absurd he List.not_mem_nil

end State

/-- **No forged lines.** Once a step of a run has installed escaping, every record of every later
step of the library is on one line, whatever the steps are and whether they succeed; and so is every
record of the installing step itself but the announcement of settings that it loads first. -/
theorem isOneLine_of_installs [Settings.Loader] {s : State} {steps : List Step} {i j : Nat}
    {installing own : Step} {turn : Turn Answer} {r : Record}
    (hi : steps[i]? = some installing)
    (hinstalls : (after s (steps.take i)).installs installing = true)
    (hj : steps[j]? = some own) (hown : own.isOwn = true)
    (hturn : (turns s steps)[j]? = some turn) (hr : r ∈ turn.records)
    (hlater : i < j ∨ i = j ∧ r.logger ≠ settingsLogger) : isOneLine r.message = true := by
  rw [isOneLine_iff]
  rw [turns_getElem?, hj] at hturn
  obtain rfl := Option.some.inj hturn
  rcases hlater with hlater | ⟨rfl, hlogger⟩
  · have hescaping := escaping_after_of_installs hlater hi hinstalls
    exact State.isLine_step hescaping hown hr
  · obtain rfl : installing = own := Option.some.inj (hi.symm.trans hj)
    exact State.isLine_installing hinstalls hr hlogger

/-- A run that sets up logging with escaping and then asks for a level whose name would add a line
of its own to the log. -/
def forgingRun : List Step :=
  [.configure (some [("safe_logging", .bool true)]), .setLevel "LOUD\nall is well"]

/-- The record of the level that the run asks for. -/
def forgingRecord : Record where
  logger := setupLogger
  level := .warning
  message := "Invalid log level 'LOUD\\nall is well', using INFO"

/-- The record of the level that the run asks for is on one line, with the line feed written out. -/
theorem record_unknownLevelEntry_forging :
    (State.unknownLevelEntry "LOUD\nall is well").record true = .ok forgingRecord := by
  have hescaped : escapeLineBreaks "LOUD\nall is well" = "LOUD\\nall is well" :=
    escapeLineBreaks_eq_iff.2 (by decide)
  unfold Entry.record recordArguments State.unknownLevelEntry Arguments.ofCall Arguments.escape
  simp only [List.map, escaped, hescaped]
  rfl

/-- The second step of the run emits its record, which is on one line. -/
theorem isOneLine_forgingRun :
    ∃ turn, (turns {} forgingRun)[1]? = some turn ∧ forgingRecord ∈ turn.records ∧
      isOneLine forgingRecord.message = true := by
  have hturn : (turns {} forgingRun)[1]? =
      some ((after {} (forgingRun.take 1)).step (.setLevel "LOUD\nall is well")) :=
    turns_getElem? {} forgingRun 1
  have hstate : after {} (forgingRun.take 1) = { level := some .info, escaping := true } := by
    decide +kernel
  have hrecord : forgingRecord ∈
      ((after {} (forgingRun.take 1)).step (.setLevel "LOUD\nall is well")).records := by
    show _ ∈ ((after {} (forgingRun.take 1)).setLevel "LOUD\nall is well").records
    rw [State.setLevel_eq, hstate]
    unfold State.levelEntries State.records State.emitAll
    rw [if_neg (by decide +kernel), List.mapM_cons]
    unfold State.emit
    dsimp only
    rw [record_unknownLevelEntry_forging]
    exact List.mem_singleton_self forgingRecord
  exact ⟨_, hturn, hrecord, isOneLine_of_installs (i := 0) (j := 1) rfl (by decide +kernel) rfl rfl
    hturn hrecord (.inl Nat.zero_lt_one)⟩

end FilterGraph.Session
