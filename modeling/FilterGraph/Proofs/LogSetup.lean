import FilterGraph.Proofs.SessionRuns

/-!
# The set-up of logging in a run

Of the set-up of logging, a run keeps three things: the level in force, whether line breaks are
escaped, and the settings that are kept. No level is in force until a step sets one, and afterwards
it is the level that the last such step set (`State.level_step`). Escaping is on as soon as a step
has installed it, for good. A step that fails because settings cannot be loaded changes none of the
three, although setting up logging changes one after the other. `setup_in_run` puts this together.

The text that asks for a level may be any text: in capitals it either is the name of a level, or
else it asks for INFO (`State.name_levelFor`).
-/

set_option autoImplicit false

namespace FilterGraph.Session

open FilterGraph.Log

/-- The names of the levels. -/
def levelNames : List String := ["DEBUG", "INFO", "WARNING", "ERROR", "CRITICAL"]

/-- The name of the level that a text asks for: the text in capitals, if that is the name of a
level. -/
def askedName (text : String) : String :=
  if Text.capitals text ∈ levelNames then Text.capitals text else "INFO"

namespace State

variable {s : State}

/-! ### Levels -/

/-- The names are those of the levels, in order. -/
theorem levelNames_eq : levelNames = Level.all.map Level.name := rfl

/-- Every level has one of the names. -/
theorem name_mem_levelNames (level : Level) : level.name ∈ levelNames := by
  cases level <;> decide

/-- The level that is set for a text is the one that the text asks for, and INFO if it asks for
none. -/
theorem name_levelFor (text : String) : (levelFor text).name = askedName text := by
  unfold levelFor askedName
  cases h : Level.named? text with
  | some level =>
    rw [(Level.named?_eq_some_iff text level).1 h, if_pos (name_mem_levelNames level)]
    rfl
  | none =>
    rw [if_neg]
    · rfl
    · intro hmem
      rw [levelNames_eq] at hmem
      obtain ⟨level, -, hname⟩ := List.mem_map.1 hmem
      rw [(Level.named?_eq_some_iff text level).2 hname.symm] at h
      exact nomatch h

variable [Settings.Loader]

/-- The level that a step puts in force, if it sets one. -/
def sets? (s : State) : Step → Option Level
  | .setLevel text => some (levelFor text)
  | .configure fields =>
    (s.effective fields).toOption.map fun settings => levelFor settings.logLevel
  | _ => none

/-- A step puts the level in force that it sets, or else leaves the one that is. -/
theorem level_step (s : State) (step : Step) :
    (s.step step).state.level = ((s.sets? step).map some).getD s.level := by
  rw [state_step]
  cases step with
  | keptSettings =>
    unfold next
    dsimp only
    split <;> rfl
  | configure fields =>
    unfold next sets?
    dsimp only
    cases s.effective fields <;> rfl
  | _ => rfl

/-- Setting up logging succeeds with the settings that it goes by, and then their level is in
force. -/
theorem exists_of_configure {fields : Option (Entries Scalar)} {level : Level}
    (h : (s.configure fields).outcome = .ok level) :
    ∃ settings, s.effective fields = .ok settings ∧ level.name = askedName settings.logLevel ∧
      (s.configure fields).state.level = some level := by
  cases heffective : s.effective fields with
  | error failure =>
    rw [configure_of_error heffective] at h
    exact nomatch h
  | ok settings =>
    rw [configure_of_ok heffective] at h ⊢
    obtain rfl := Except.ok.inj h
    exact ⟨settings, rfl, name_levelFor settings.logLevel, rfl⟩

/-! ### Failing steps -/

/-- Asking for settings changes nothing if it fails. -/
theorem state_of_keptSettings_eq_error {failure : Failure}
    (h : s.keptSettings.outcome = .error failure) : s.keptSettings.state = s := by
  cases heffective : s.effective none with
  | ok settings =>
    rw [keptSettings_of_ok heffective] at h
    exact nomatch h
  | error other => rw [keptSettings_of_error heffective]

/-- Setting up logging changes nothing if it fails. -/
theorem state_of_configure_eq_error {fields : Option (Entries Scalar)} {failure : Failure}
    (h : (s.configure fields).outcome = .error failure) : (s.configure fields).state = s := by
  cases heffective : s.effective fields with
  | ok settings =>
    rw [configure_of_ok heffective] at h
    exact nomatch h
  | error other => rw [configure_of_error heffective]

end State

/-! ### Runs -/

section Runs

variable [Settings.Loader] {steps : List Step}

/-- The level in force at a place of a run is the one that was set last, if one was set. -/
theorem level_after (j : ℕ) :
    let s := after {} (steps.take j)
    (s.level = none ∧ WritesNone State.sets? {} steps 0 j) ∨
    ∃ i < j, ∃ step level, steps[i]? = some step ∧
      (after {} (steps.take i)).sets? step = some level ∧ s.level = some level ∧
      WritesNone State.sets? {} steps (i + 1) j := by
  have hnone : ∀ {i}, WritesNone (fun s step => (s.sets? step).map some) {} steps i j →
      WritesNone State.sets? {} steps i j := by
    intro i h k step hik hkj hstep
    exact Option.map_eq_none_iff.1 (h k step hik hkj hstep)
  rcases last_write {} steps State.level_step j with ⟨hstart, hquiet⟩ |
      ⟨i, hij, step, hstep, hwrite, hquiet⟩
  · exact .inl ⟨hstart, hnone hquiet⟩
  · obtain ⟨level, hsets, hlevel⟩ := Option.map_eq_some_iff.1 hwrite
    exact .inr ⟨i, hij, step, level, hstep, hsets, hlevel.symm, hnone hquiet⟩

/-- Escaping is on at a place of a run exactly if a step before it has installed it. -/
theorem escaping_iff (j : ℕ) :
    (after {} (steps.take j)).escaping = true ↔
      ∃ i < j, ∃ step, steps[i]? = some step ∧
        (after {} (steps.take i)).installs step = true := by
  constructor
  · intro h
    by_contra hnone
    have hoff : (after {} (steps.take j)).escaping = false := by
      refine after_take_induction (P := fun t => t.escaping = false) (Nat.zero_le j) rfl ?_
      intro k step _ hkj hstep hk
      rw [State.escaping_step, hk, Bool.false_or, Bool.eq_false_iff]
      exact fun hinstalls => hnone ⟨k, hkj, step, hstep, hinstalls⟩
    rw [hoff] at h
    exact nomatch h
  · rintro ⟨i, hij, step, hstep, hinstalls⟩
    exact escaping_after_of_installs hij hstep hinstalls

/-- **The set-up of logging in a run.** Take the state at any place of any run from the start.

* Either no step so far has set a level and none is in force, or the level in force is the one that
  the last such step set, and it has one of the five names.
* Setting the level succeeds, and setting up logging succeeds exactly with the settings that it goes
  by. Either answers the level that is in force afterwards, and its name is the text that asked for
  it in capitals, if that is one of the five names, and otherwise INFO.
* Escaping is on exactly if some step so far has installed it, and then it is at all later places.
* A step that asks for settings or sets up logging leaves the state as it is if it fails. -/
theorem setup_in_run (steps : List Step) (j : ℕ) :
    let s := after {} (steps.take j)
    ((s.level = none ∧ WritesNone State.sets? {} steps 0 j) ∨
      ∃ i < j, ∃ step level, steps[i]? = some step ∧
        (after {} (steps.take i)).sets? step = some level ∧ s.level = some level ∧
        level.name ∈ levelNames ∧ WritesNone State.sets? {} steps (i + 1) j) ∧
    (∀ text, ∃ level, (s.step (.setLevel text)).outcome = .ok (.level level) ∧
      (s.step (.setLevel text)).state.level = some level ∧ level.name = askedName text) ∧
    (∀ fields answer, (s.step (.configure fields)).outcome = .ok answer →
      ∃ settings level, s.effective fields = .ok settings ∧
        (s.configure fields).outcome = .ok level ∧
        (s.step (.configure fields)).state.level = some level ∧
        level.name = askedName settings.logLevel) ∧
    (s.escaping = true ↔ ∃ i < j, ∃ step, steps[i]? = some step ∧
      (after {} (steps.take i)).installs step = true) ∧
    (s.escaping = true → ∀ k, j ≤ k → (after {} (steps.take k)).escaping = true) ∧
    ∀ step failure, (step = .keptSettings ∨ ∃ fields, step = .configure fields) →
      (s.step step).outcome = .error failure → (s.step step).state = s := by
  intro s
  refine ⟨?_, ?_, ?_, escaping_iff j, fun hescaping k hjk => escaping_of_le hjk hescaping, ?_⟩
  · have hlast := @level_after _ steps j
    rcases hlast with hunset | ⟨i, hij, step, level, hstep, hsets, hlevel, hnone⟩
    · exact .inl hunset
    · exact .inr ⟨i, hij, step, level, hstep, hsets, hlevel, State.name_mem_levelNames level, hnone⟩
  · intro text
    refine ⟨State.levelFor text, ?_, ?_, State.name_levelFor text⟩
    · rw [State.step, State.setLevel_eq]
      rfl
    · rw [State.step, State.setLevel_eq]
      rfl
  · intro fields answer hanswer
    rw [State.step] at hanswer ⊢
    obtain ⟨level, hlevel, -⟩ := Outcome.map_eq_ok_iff.1 hanswer
    obtain ⟨settings, heffective, hname, hstate⟩ := State.exists_of_configure hlevel
    exact ⟨settings, level, heffective, hlevel, hstate, hname⟩
  · rintro step failure (rfl | ⟨fields, rfl⟩) hfailure
    · exact State.state_of_keptSettings_eq_error (Outcome.map_eq_error_iff.1 hfailure)
    · exact State.state_of_configure_eq_error (Outcome.map_eq_error_iff.1 hfailure)

end Runs

/-- A run that installs escaping, sets up logging without it, and then spoils the environment. -/
def hardenedRun : List Step :=
  [.setLevel "debug", .installEscaping,
    .configure (some [("log_level", .text "warning"), ("safe_logging", .bool false)]),
    .setVariable "FFGRAPH_SAFE_LOGGING" "perhaps", .configure none]

/-- Escaping stays on through the set-up without it, and the set-up that fails at the end changes
nothing. -/
theorem setup_in_hardenedRun :
    let s := after {} (hardenedRun.take 4)
    s.escaping = true ∧ s.level = some .warning ∧
      (s.step (.configure none)).outcome =
        .error (.badSettings [(.safeLogging, .notTruthText)]) ∧
      (s.step (.configure none)).state = s ∧
      ∃ level, (s.step (.setLevel "loud")).outcome = .ok (.level level) ∧ level.name = "INFO" := by
  intro s
  obtain ⟨-, -, -, -, hstays, -⟩ := setup_in_run hardenedRun 2
  obtain ⟨-, hset, -, -, -, hfails⟩ := setup_in_run hardenedRun 4
  have hfailure : (s.step (.configure none)).outcome =
      .error (.badSettings [(.safeLogging, .notTruthText)]) := by
    have heffective : s.effective none =
        .error (.badSettings [(.safeLogging, .notTruthText)]) := by decide +kernel
    rw [State.step, State.configure_of_error heffective]
    rfl
  refine ⟨hstays (by decide +kernel) 4 (by decide), by decide +kernel, hfailure,
    hfails (.configure none) _ (.inr ⟨none, rfl⟩) hfailure, ?_⟩
  obtain ⟨level, hlevel, -, hname⟩ := hset "loud"
  exact ⟨level, hlevel, hname.trans (by decide +kernel)⟩

end FilterGraph.Session
